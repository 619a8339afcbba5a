import ProofKey.Text.Pieces

/-!
# Hangul syllables

A syllable is made of a leading consonant, a vowel and, in most cases, a trailing consonant. The
syllables stand in Unicode in the order of their three letters, so that arithmetic joins and parts
them.
-/

namespace ProofKey.Hangul

def syllableStart : Nat := 0xAC00

def leadStart : Nat := 0x1100

def vowelStart : Nat := 0x1161

/-- The code point before the first trailing consonant: its place stands for none. -/
def trailStart : Nat := 0x11A7

/-- The names of the leading consonants. One of them is silent. -/
def leads : List String :=
  ["G", "GG", "N", "D", "DD", "R", "M", "B", "BB", "S", "SS", "", "J", "JJ", "C", "K", "T", "P",
    "H"]

def vowels : List String :=
  ["A", "AE", "YA", "YAE", "EO", "E", "YEO", "YE", "O", "WA", "WAE", "OE", "YO", "U", "WEO", "WE",
    "WI", "YU", "EU", "YI", "I"]

/-- The names of the trailing consonants, the missing one among them. -/
def trails : List String :=
  ["", "G", "GG", "GS", "N", "NJ", "NH", "D", "L", "LG", "LM", "LB", "LS", "LT", "LP", "LH", "M",
    "B", "BS", "S", "SS", "NG", "J", "C", "K", "T", "P", "H"]

def syllableCount : Nat := leads.length * vowels.length * trails.length

/-- The place of a code point behind a start, if it is one of so many places. -/
def place? (start size : Nat) (c : CodePoint) : Option Nat :=
  if start ≤ c.value ∧ c.value < start + size then some (c.value - start) else none

/-- The syllable of three letters, which are given by their places. -/
def syllable (lead vowel trail : Nat) : CodePoint :=
  .ofNat (syllableStart + (lead * vowels.length + vowel) * trails.length + trail)

def decompose? (c : CodePoint) : Option Text :=
  (place? syllableStart syllableCount c).map fun place =>
    let trail := place % trails.length
    let begun := place / trails.length
    let ends : Text := if trail = 0 then [] else [.ofNat (trailStart + trail)]
    .ofNat (leadStart + begun / vowels.length) ::
      .ofNat (vowelStart + begun % vowels.length) :: ends

/-- The syllable of a leading consonant and a vowel, or of a syllable without a trailing consonant
and one. -/
def pair? (first second : CodePoint) : Option CodePoint :=
  match place? leadStart leads.length first, place? vowelStart vowels.length second with
  | some lead, some vowel => some (syllable lead vowel 0)
  | _, _ =>
      match place? syllableStart syllableCount first, place? trailStart trails.length second with
      | some place, some trail =>
          if place % trails.length = 0 ∧ trail ≠ 0 then some (.ofNat (first.value + trail))
          else none
      | _, _ => none

/-- The longest of some names that a text starts with: its place among them, and what follows it in
the text. -/
def longest? (names : List String) (t : Text) : Option (Nat × Text) :=
  let found := names.zipIdx.filterMap fun (name, place) =>
    (Text.afterWord? name t).map fun rest => (place, rest)
  found.foldl
    (fun best next =>
      if best.all fun (_, rest) => next.2.length < rest.length then some next else best)
    none

/-- The syllable whose letters are named. Each letter takes as much of the text as it can. -/
def named? (t : Text) : Option CodePoint := do
  let (lead, t) ← longest? leads t
  let (vowel, t) ← longest? vowels t
  let (trail, t) ← longest? trails t
  if t.isEmpty then some (syllable lead vowel trail) else none

end ProofKey.Hangul
