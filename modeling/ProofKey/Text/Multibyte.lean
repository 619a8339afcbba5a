import ProofKey.Text.Grid

/-!
# Characters of several bytes

In an encoding with characters of one or more bytes the first byte of a character decides how it
is read on. A reader says what one character stands for; `decode?` reads them one after the other.
-/

namespace ProofKey

/-- Reads a character from its first byte and the bytes behind it: what it stands for, and how many
of the bytes behind the first one belong to it. -/
abbrev CharReader := UInt8 → List UInt8 → Option (Text × Nat)

namespace CharReader

def single (c : CodePoint) : Option (Text × Nat) := some ([c], 0)

def orAscii (read : CharReader) : CharReader := fun first rest =>
  if first < 0x80 then single (.ofNat first.toNat) else read first rest

/-- Reads two bytes as the text that stands for their numbers. -/
def pair (find : Nat → Nat → Option Text) : CharReader := fun first rest =>
  match rest with
  | [] => none
  | second :: _ => (find first.toNat second.toNat).map fun t => (t, 1)

/-- The text of bytes that are characters one after the other. -/
def decode? (read : CharReader) (bytes : List UInt8) : Option Text :=
  match bytes with
  | [] => some []
  | first :: rest =>
      (read first rest).bind fun (t, size) =>
        (decode? read (rest.drop size)).map fun more => t ++ more
termination_by bytes.length

end CharReader

namespace Grid

/-- The character of two bytes, of which A1 stands for the first row and the first cell. -/
def high? (g : Grid) (a b : Nat) : Option CodePoint :=
  if 0xA0 < a ∧ 0xA0 < b then g.get? (a - 0xA0) (b - 0xA0) else none

/-- The character of two bytes, of which 21 stands for the first row and the first cell. -/
def low? (g : Grid) (a b : Nat) : Option CodePoint :=
  if 0x20 < a ∧ 0x20 < b then g.get? (a - 0x20) (b - 0x20) else none

end Grid

end ProofKey
