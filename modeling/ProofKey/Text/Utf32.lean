import ProofKey.Text.Utf16

/-!
# UTF-32

Units of four bytes each, which are the numbers of code points. Surrogates have no place here.
-/

namespace ProofKey.Utf32

def quad : ByteOrder → Nat → Nat → Nat → Nat → Nat
  | .little, a, b, c, d => ByteOrder.little.pair a b + 0x10000 * ByteOrder.little.pair c d
  | .big, a, b, c, d => 0x10000 * ByteOrder.big.pair a b + ByteOrder.big.pair c d

def units? (order : ByteOrder) : List UInt8 → Option (List Nat)
  | [] => some []
  | a :: b :: c :: d :: rest =>
      (units? order rest).map fun more =>
        quad order a.toNat b.toNat c.toNat d.toNat :: more
  | _ => none

/-- The text of some units, which are Unicode scalar values. -/
def ofUnits? (units : List Nat) : Option Text :=
  units.mapM fun n => if n < 0xD800 ∨ 0xDFFF < n ∧ n ≤ 0x10FFFF then some (.ofNat n) else none

/-- Takes the byte order from the mark before a text, if the order is open. Without a mark it is
`little`. -/
def takeMark : Option ByteOrder → List UInt8 → ByteOrder × List UInt8
  | some order, bytes => (order, bytes)
  | none, 0xFF :: 0xFE :: 0x00 :: 0x00 :: rest => (.little, rest)
  | none, 0x00 :: 0x00 :: 0xFE :: 0xFF :: rest => (.big, rest)
  | none, bytes => (.little, bytes)

def decode? (order : Option ByteOrder) (bytes : List UInt8) : Option Text :=
  let (order, rest) := takeMark order bytes
  (units? order rest).bind ofUnits?

end ProofKey.Utf32
