import ProofKey.Text

/-!
# Base64url without padding

Three bytes become four letters of the URL-safe alphabet; one or two bytes at the end become two
or three, with zero bits filled in and no `=` after them. `decode` reads exactly what `encode`
writes: letters outside the alphabet, a single letter at the end and filled-in bits that are not
zero are refused.
-/

namespace ProofKey.Base64Url

def letter (n : Nat) : CodePoint :=
  if n < 26 then .ofNat (0x41 + n)
  else if n < 52 then .ofNat (0x61 + (n - 26))
  else if n < 62 then .ofNat (0x30 + (n - 52))
  else if n = 62 then '-'
  else '_'

def index? (c : CodePoint) : Option Nat :=
  if c.between 'A' 'Z' then some (c.value - 0x41)
  else if c.between 'a' 'z' then some (c.value - 0x61 + 26)
  else if c.between '0' '9' then some (c.value - 0x30 + 52)
  else if c = CodePoint.ofChar '-' then some 62
  else if c = CodePoint.ofChar '_' then some 63
  else none

def encode : List UInt8 → Text
  | [] => []
  | [a] => [letter (a.toNat / 4), letter (a.toNat % 4 * 16)]
  | [a, b] =>
      [letter (a.toNat / 4), letter (a.toNat % 4 * 16 + b.toNat / 16), letter (b.toNat % 16 * 4)]
  | a :: b :: c :: rest =>
      letter (a.toNat / 4) :: letter (a.toNat % 4 * 16 + b.toNat / 16) ::
        letter (b.toNat % 16 * 4 + c.toNat / 64) :: letter (c.toNat % 64) :: encode rest

def bytes? : List Nat → Option (List UInt8)
  | [] => some []
  | [_] => none
  | [i, j] => if j % 16 = 0 then some [.ofNat (i * 4 + j / 16)] else none
  | [i, j, k] =>
      if k % 4 = 0 then some [.ofNat (i * 4 + j / 16), .ofNat (j % 16 * 16 + k / 4)] else none
  | i :: j :: k :: l :: rest =>
      (bytes? rest).map fun more =>
        .ofNat (i * 4 + j / 16) :: .ofNat (j % 16 * 16 + k / 4) :: .ofNat (k % 4 * 64 + l) :: more

def decode (t : Text) : Option (List UInt8) := t.mapM index? >>= bytes?

theorem length_encode (bytes : List UInt8) :
    (encode bytes).length = (bytes.length * 4 + 2) / 3 := by
  fun_induction encode bytes with
  | case1 => rfl
  | case2 => simp
  | case3 => simp
  | case4 a b c rest ih => simp only [List.length_cons, ih]; omega

end ProofKey.Base64Url
