import ProofKey.Grammar
import ProofKey.Text.Utf8

/-!
# Percent-encoding

`encode` keeps unreserved characters and writes every other one as its UTF-8 bytes, each as `%`
and two capital hexadecimal digits. `decode` accepts any text: what is no escape stays, and the
bytes of each run of ASCII are read as UTF-8 by themselves, with U+FFFD for what is malformed.
-/

namespace ProofKey.Percent

/-- The capital hexadecimal digit of a number below sixteen. -/
def hexDigit (n : Nat) : CodePoint := .ofNat (if n < 10 then 0x30 + n else 0x41 + (n - 10))

def hexValue? (c : CodePoint) : Option Nat :=
  if c.between '0' '9' then some (c.value - 0x30)
  else if c.between 'A' 'F' then some (c.value - 0x41 + 10)
  else if c.between 'a' 'f' then some (c.value - 0x61 + 10)
  else none

def escape (byte : UInt8) : Text :=
  ['%', hexDigit (byte.toNat / 16), hexDigit (byte.toNat % 16)]

def encodeOne (c : CodePoint) : Text :=
  if Grammar.isUnreserved c then [c] else (Utf8.encodeOne c).flatMap escape

def encode (t : Text) : Text := t.flatMap encodeOne

def byte? (high low : CodePoint) : Option UInt8 :=
  match hexValue? high, hexValue? low with
  | some h, some l => some (UInt8.ofNat (h * 16 + l))
  | _, _ => none

/-- The bytes of an ASCII text; a `%` without two digits after it stands for itself. -/
def octets : Text → List UInt8
  | [] => []
  | c :: high :: low :: rest =>
      if c = CodePoint.ofChar '%' then
        match byte? high low with
        | some byte => byte :: octets rest
        | none => UInt8.ofNat c.value :: octets (high :: low :: rest)
      else UInt8.ofNat c.value :: octets (high :: low :: rest)
  | c :: rest => UInt8.ofNat c.value :: octets rest

/-- A stretch of a text: as much ASCII as stands together, or one other code point. -/
inductive Run where
  | ascii (t : Text)
  | other (c : CodePoint)
  deriving DecidableEq, Repr

def Run.prepend (c : CodePoint) : List Run → List Run
  | .ascii t :: more => .ascii (c :: t) :: more
  | runs => .ascii [c] :: runs

/-- The runs of a text, each of ASCII as long as possible. -/
def runs : Text → List Run
  | [] => []
  | c :: rest => if c.isAscii then Run.prepend c (runs rest) else .other c :: runs rest

def Run.decode : Run → Text
  | .ascii t => Utf8.decode (octets t)
  | .other c => [c]

def decode (t : Text) : Text := (runs t).flatMap Run.decode

theorem hexValue?_hexDigit : ∀ n < 16, hexValue? (hexDigit n) = some n := by decide

end ProofKey.Percent
