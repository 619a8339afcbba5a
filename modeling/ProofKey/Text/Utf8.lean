import ProofKey.Text

/-!
# UTF-8

`encode` writes every text, a surrogate as the three bytes that its number gives. `decode` reads
every list of bytes: each maximal start of a character that cannot be completed becomes one
U+FFFD, and so does each byte that starts no character. Bytes of a surrogate are such bytes.
-/

namespace ProofKey.Utf8

/-- A continuation byte carries six bits. -/
def continuation (n : Nat) : UInt8 := UInt8.ofNat (0x80 + n % 0x40)

/-- One to four bytes, by the size of the code point. -/
def encodeOne (c : CodePoint) : List UInt8 :=
  let n := c.value
  if n < 0x80 then [UInt8.ofNat n]
  else if n < 0x800 then [UInt8.ofNat (0xC0 + n / 0x40), continuation n]
  else if n < 0x10000 then
    [UInt8.ofNat (0xE0 + n / 0x1000), continuation (n / 0x40), continuation n]
  else
    [UInt8.ofNat (0xF0 + n / 0x40000), continuation (n / 0x1000), continuation (n / 0x40),
      continuation n]

def encode (t : Text) : List UInt8 := t.flatMap encodeOne

/-- A character of which some bytes are read: how many bytes it still needs, the least and the
greatest that the next one may be, and the bits so far. -/
structure Partial where
  owed : Nat
  low : Nat
  high : Nat
  bits : Nat
  deriving Repr, DecidableEq

/-- What the first byte of a character says. -/
inductive Lead where
  | done (c : CodePoint)
  | more (p : Partial)
  | invalid
  deriving Repr, DecidableEq

/-- The ranges of the second byte leave out overlong forms, surrogates and numbers above
U+10FFFF. -/
def lead (byte : UInt8) : Lead :=
  let n := byte.toNat
  if n < 0x80 then .done (.ofNat n)
  else if n < 0xC2 then .invalid
  else if n < 0xE0 then .more ⟨1, 0x80, 0xBF, n - 0xC0⟩
  else if n = 0xE0 then .more ⟨2, 0xA0, 0xBF, 0⟩
  else if n = 0xED then .more ⟨2, 0x80, 0x9F, 0xD⟩
  else if n < 0xF0 then .more ⟨2, 0x80, 0xBF, n - 0xE0⟩
  else if n = 0xF0 then .more ⟨3, 0x90, 0xBF, 0⟩
  else if n < 0xF4 then .more ⟨3, 0x80, 0xBF, n - 0xF0⟩
  else if n = 0xF4 then .more ⟨3, 0x80, 0x8F, 4⟩
  else .invalid

/-- Reads on in the middle of a character (`some`) or between two (`none`). A byte that does not
belong to the character under way ends it as U+FFFD and is read as a first byte. -/
def decodeFrom : Option Partial → List UInt8 → Text
  | none, [] => []
  | some _, [] => [.replacement]
  | none, byte :: rest =>
      match lead byte with
      | .done c => c :: decodeFrom none rest
      | .more p => decodeFrom (some p) rest
      | .invalid => .replacement :: decodeFrom none rest
  | some p, byte :: rest =>
      if p.low ≤ byte.toNat ∧ byte.toNat ≤ p.high then
        let bits := p.bits * 0x40 + (byte.toNat - 0x80)
        if p.owed ≤ 1 then .ofNat bits :: decodeFrom none rest
        else decodeFrom (some ⟨p.owed - 1, 0x80, 0xBF, bits⟩) rest
      else
        match lead byte with
        | .done c => .replacement :: c :: decodeFrom none rest
        | .more q => .replacement :: decodeFrom (some q) rest
        | .invalid => .replacement :: .replacement :: decodeFrom none rest

def decode (bytes : List UInt8) : Text := decodeFrom none bytes

/-- The text of well-formed bytes: those that encode what they are read as. -/
def decode? (bytes : List UInt8) : Option Text :=
  let t := decode bytes
  if encode t = bytes then some t else none

end ProofKey.Utf8
