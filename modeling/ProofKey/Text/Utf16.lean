import ProofKey.Text

/-!
# UTF-16

Units of two bytes each; a code point above U+FFFF takes two of them, which are surrogates. The
order of the bytes is either agreed on or told by a mark before the text.
-/

namespace ProofKey

/-- Which byte of a unit comes first: the least significant or the most significant one. -/
inductive ByteOrder where
  | little
  | big
  deriving DecidableEq, Repr

def ByteOrder.pair : ByteOrder → Nat → Nat → Nat
  | little, a, b => a + 0x100 * b
  | big, a, b => 0x100 * a + b

namespace Utf16

def join (high low : Nat) : CodePoint :=
  .ofNat (0x10000 + (high - 0xD800) * 0x400 + (low - 0xDC00))

def units? (order : ByteOrder) : List UInt8 → Option (List Nat)
  | [] => some []
  | [_] => none
  | a :: b :: rest => (units? order rest).map fun more => order.pair a.toNat b.toNat :: more

/-- The text of some units; each surrogate has to have its partner. -/
def ofUnits? : List Nat → Option Text
  | [] => some []
  | unit :: rest =>
      if unit < 0xD800 ∨ 0xDFFF < unit then (ofUnits? rest).map fun t => .ofNat unit :: t
      else
        match rest with
        | [] => none
        | low :: more =>
            if unit < 0xDC00 ∧ 0xDC00 ≤ low ∧ low ≤ 0xDFFF then
              (ofUnits? more).map fun t => join unit low :: t
            else none

/-- Takes the byte order from the mark before a text, if the order is open. Without a mark it is
`little`. -/
def takeMark : Option ByteOrder → List UInt8 → ByteOrder × List UInt8
  | some order, bytes => (order, bytes)
  | none, 0xFF :: 0xFE :: rest => (.little, rest)
  | none, 0xFE :: 0xFF :: rest => (.big, rest)
  | none, bytes => (.little, bytes)

def decode? (order : Option ByteOrder) (bytes : List UInt8) : Option Text :=
  let (order, rest) := takeMark order bytes
  (units? order rest).bind ofUnits?

end Utf16

end ProofKey
