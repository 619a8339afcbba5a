import ProofKey.Text.Utf16

/-!
# UTF-7

ASCII stands for itself, but for `+`, which begins a run of base64 digits that write UTF-16 units
(RFC 2152). A run ends before the first byte that is no digit, and `-` may mark its end. The bits
behind the last unit have to be zeros, and fewer than a digit's. A surrogate without its partner is
a code point of its own inside a run and right before the end of one.
-/

namespace ProofKey.Utf7

def digit? (byte : UInt8) : Option Nat :=
  let n := byte.toNat
  if 0x41 ≤ n ∧ n ≤ 0x5A then some (n - 0x41)
  else if 0x61 ≤ n ∧ n ≤ 0x7A then some (n - 0x61 + 26)
  else if 0x30 ≤ n ∧ n ≤ 0x39 then some (n - 0x30 + 52)
  else if n = 0x2B then some 62
  else if n = 0x2F then some 63
  else none

/-- The middle of a run: the bits that are no unit yet, how many they are, and the high surrogate
that waits for its partner. -/
structure Run64 where
  bits : Nat := 0
  size : Nat := 0
  high : Option Nat := none
  deriving DecidableEq, Repr

namespace Run64

/-- Whether the bits so far may be the last ones of a run. -/
def canEnd (run : Run64) : Bool := run.size < 6 && run.bits == 0

def waiting (run : Run64) : Text := (run.high.map .ofNat).toList

/-- Takes a unit: what is certain now, and the high surrogate that waits from now on. -/
def takeUnit (high : Option Nat) (unit : Nat) : Text × Option Nat :=
  let isHigh := 0xD800 ≤ unit && unit < 0xDC00
  let isLow := 0xDC00 ≤ unit && unit < 0xE000
  match high with
  | some h =>
      if isLow then ([Utf16.join h unit], none)
      else if isHigh then ([.ofNat h], some unit)
      else ([.ofNat h, .ofNat unit], none)
  | none => if isHigh then ([], some unit) else ([.ofNat unit], none)

/-- Takes the six bits of a digit: what is certain now, and the run from now on. -/
def push (run : Run64) (digit : Nat) : Text × Run64 :=
  let bits := run.bits * 64 + digit
  let size := run.size + 6
  if size < 16 then ([], ⟨bits, size, run.high⟩)
  else
    let excess := 1 <<< (size - 16)
    let (certain, high) := takeUnit run.high (bits / excess)
    (certain, ⟨bits % excess, size - 16, high⟩)

end Run64

/-- Reads on in the middle of a run (`some`) or outside of one (`none`). -/
def decodeFrom : Option Run64 → List UInt8 → Option Text
  | none, [] => some []
  | none, byte :: rest =>
      if byte = 0x2B then
        match rest with
        | [] => some []
        | next :: more =>
            if next = 0x2D then (decodeFrom none more).map fun t => .ofChar '+' :: t
            else if (digit? next).isSome then decodeFrom (some {}) (next :: more)
            else none
      else if byte < 0x80 then (decodeFrom none rest).map fun t => .ofNat byte.toNat :: t
      else none
  | some run, [] => if run.canEnd && run.high.isNone then some [] else none
  | some run, byte :: rest =>
      match digit? byte with
      | some value =>
          let (certain, next) := run.push value
          (decodeFrom (some next) rest).map fun t => certain ++ t
      | none =>
          if !run.canEnd then none
          else if byte = 0x2D then (decodeFrom none rest).map fun t => run.waiting ++ t
          else if byte < 0x80 then
            (decodeFrom none rest).map fun t => run.waiting ++ .ofNat byte.toNat :: t
          else none
termination_by _ bytes => bytes.length

def decode? (bytes : List UInt8) : Option Text := decodeFrom none bytes

end ProofKey.Utf7
