import ProofKey.Text.Absent
import ProofKey.Text.Grid.KsX1001
import ProofKey.Text.Multibyte

/-!
# Encodings of Korean

EUC-KR carries the symbols, ideographs and 2350 syllables of KS X 1001, and spells other syllables
by their letters. The code page of Windows adds these syllables as characters of their own. Johab
writes every syllable by the numbers of its three letters.
-/

namespace ProofKey.Korean

/-- The letters that can begin a syllable, in the order of Unicode. -/
def initials : Text := "ㄱㄲㄴㄷㄸㄹㅁㅂㅃㅅㅆㅇㅈㅉㅊㅋㅌㅍㅎ"

def medials : Text := "ㅏㅐㅑㅒㅓㅔㅕㅖㅗㅘㅙㅚㅛㅜㅝㅞㅟㅠㅡㅢㅣ"

/-- The letters that can end a syllable, in the order of Unicode. -/
def finals : Text := "ㄱㄲㄳㄴㄵㄶㄷㄹㄺㄻㄼㄽㄾㄿㅀㅁㅂㅄㅅㅆㅇㅈㅊㅋㅌㅍㅎ"

/-- The syllable of an initial, a medial and a final, which may be none. All count from zero. -/
def syllable (initial medial : Nat) (final : Option Nat) : CodePoint :=
  .ofNat (0xAC00 + (initial * 21 + medial) * 28 + (final.map (· + 1)).getD 0)

/-- The character of two bytes of KS X 1001 with their high bits set. -/
def ksX1001Pair? (a b : Nat) : Option CodePoint := Grid.ksX1001.high? a b

def letter? (byte : Nat) : Option CodePoint :=
  if 0xA1 ≤ byte ∧ byte ≤ 0xFE then ksX1001Pair? 0xA4 byte else none

def filler : Nat := 0xD4

/-- A syllable by its letters, each of them a pair whose second byte is given. -/
def spelled? (initial medial final : Nat) : Option CodePoint :=
  let index? (letters : Text) (byte : Nat) : Option Nat :=
    (letter? byte).bind fun c => letters.idxOf? c
  (index? initials initial).bind fun i =>
    (index? medials medial).bind fun m =>
      if final = filler then some (syllable i m none)
      else (index? finals final).map fun f => syllable i m (some f)

/-- EUC-KR. The filler of KS X 1001 begins a spelled syllable. -/
def eucKr : CharReader :=
  .orAscii fun first rest =>
    match rest with
    | [] => none
    | second :: more =>
        if first = 0xA4 ∧ second.toNat = filler then
          match more with
          | 0xA4 :: initial :: 0xA4 :: medial :: 0xA4 :: final :: _ =>
              (spelled? initial.toNat medial.toNat final.toNat).map fun c => ([c], 7)
          | _ => none
        else (ksX1001Pair? first.toNat second.toNat).map fun c => ([c], 1)

/-- The syllables that KS X 1001 lacks. -/
def furtherSyllables : Array CodePoint := Text.absent 0xAC00 0xD7A3 Grid.ksX1001.characters

/-- The place of a second byte of the code page of Windows, counted from zero. -/
def windowsTrail? (b : Nat) : Option Nat :=
  if 0x41 ≤ b ∧ b ≤ 0x5A then some (b - 0x41)
  else if 0x61 ≤ b ∧ b ≤ 0x7A then some (b - 0x61 + 26)
  else if 0x81 ≤ b ∧ b ≤ 0xFE then some (b - 0x81 + 52)
  else none

/-- The place of a pair among the further syllables, which fill the rows before those of KS X 1001
and then the cells below its own. -/
def furtherIndex? (a b : Nat) : Option Nat :=
  (windowsTrail? b).bind fun trail =>
    if 0x81 ≤ a ∧ a ≤ 0xA0 then some ((a - 0x81) * 178 + trail)
    else if 0xA1 ≤ a ∧ a ≤ 0xC6 ∧ trail < 84 then some (32 * 178 + (a - 0xA1) * 84 + trail)
    else none

def windows949 : CharReader :=
  .orAscii (.pair fun a b =>
    (ksX1001Pair? a b <|> (furtherIndex? a b).bind fun i => furtherSyllables[i]?).map fun c => [c])

/-- A letter of a syllable in Johab, or its absence. -/
inductive Slot where
  | filler
  | letter (index : Nat)
  deriving DecidableEq, Repr

namespace Slot

def initial? (n : Nat) : Option Slot :=
  if n = 1 then some filler else if 2 ≤ n ∧ n ≤ 20 then some (letter (n - 2)) else none

/-- The medial with a number. The numbers have gaps, so that no byte becomes a sign of ASCII. -/
def medial? (n : Nat) : Option Slot :=
  if n = 2 then some filler
  else if 3 ≤ n ∧ n ≤ 7 then some (letter (n - 3))
  else if 10 ≤ n ∧ n ≤ 15 then some (letter (n - 5))
  else if 18 ≤ n ∧ n ≤ 23 then some (letter (n - 7))
  else if 26 ≤ n ∧ n ≤ 29 then some (letter (n - 9))
  else none

def final? (n : Nat) : Option Slot :=
  if n = 1 then some filler
  else if 2 ≤ n ∧ n ≤ 17 then some (letter (n - 2))
  else if 19 ≤ n ∧ n ≤ 29 then some (letter (n - 3))
  else none

end Slot

/-- What three slots write: a syllable, a letter alone, or a wide space. -/
def compose? : Slot → Slot → Slot → Option CodePoint
  | .letter i, .letter m, .letter f => some (syllable i m (some f))
  | .letter i, .letter m, .filler => some (syllable i m none)
  | .letter i, .filler, .filler => initials[i]?
  | .filler, .letter m, .filler => medials[m]?
  | .filler, .filler, .letter f => finals[f]?
  | .filler, .filler, .filler => some '\u3000'
  | _, _, _ => none

/-- The syllable of two bytes of Johab: behind a bit that is set, three numbers of five bits. -/
def johabSyllable? (a b : Nat) : Option CodePoint :=
  (Slot.initial? (a / 4 % 32)).bind fun initial =>
    (Slot.medial? (a % 4 * 8 + b / 32)).bind fun medial =>
      (Slot.final? (b % 32)).bind fun final => compose? initial medial final

/-- The row and the cell of KS X 1001 that two bytes of Johab stand for, two rows to a first byte.
Letters, which have no other place in the fourth row, are not among them. -/
def johabPlace? (a b : Nat) : Option (Nat × Nat) :=
  let lead :=
    if 0xD9 ≤ a ∧ a ≤ 0xDE then some (2 * (a - 0xD9))
    else if 0xE0 ≤ a ∧ a ≤ 0xF9 then some (2 * (a - 0xE0) + 41)
    else none
  let trail :=
    if 0x31 ≤ b ∧ b ≤ 0x7E then some (b - 0x31)
    else if 0x91 ≤ b ∧ b ≤ 0xFE then some (b - 0x43)
    else none
  if a = 0xDA ∧ 0xA1 ≤ b ∧ b ≤ 0xD3 then none
  else lead.bind fun l => trail.map fun t => (l + t / 94 + 1, t % 94 + 1)

def johab : CharReader :=
  .orAscii (.pair fun a b =>
    (if a < 0xD8 then johabSyllable? a b
      else (johabPlace? a b).bind fun (row, cell) => Grid.ksX1001.get? row cell).map fun c => [c])

end ProofKey.Korean
