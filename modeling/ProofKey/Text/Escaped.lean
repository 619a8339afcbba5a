import ProofKey.Text.CharacterName
import ProofKey.Text.Latin1

/-!
# Text with backslash escapes

Bytes are Latin-1, and a backslash begins an escape: for a code point by its number, and in the
full form also for some characters by a letter, and for all by name. A backslash before anything
else stands for itself. An escape with too few digits, for a number above U+10FFFF, or by a name
that no character has, is malformed.
-/

namespace ProofKey.Escaped

inductive Form where
  /-- All of them. -/
  | full
  /-- Only those with four or eight hexadecimal digits. -/
  | numbers
  deriving DecidableEq, Repr

def hexDigit? (byte : UInt8) : Option Nat :=
  let n := byte.toNat
  if 0x30 ≤ n ∧ n ≤ 0x39 then some (n - 0x30)
  else if 0x41 ≤ n ∧ n ≤ 0x46 then some (n - 0x41 + 10)
  else if 0x61 ≤ n ∧ n ≤ 0x66 then some (n - 0x61 + 10)
  else none

def number? (digits : List UInt8) (size : Nat) : Option Nat :=
  if (digits.take size).length < size then none
  else
    (digits.take size).foldl
      (fun value byte => value.bind fun v => (hexDigit? byte).map fun d => v * 16 + d) (some 0)

/-- How many hexadecimal digits an escape takes behind its letter. -/
def digitCount? (form : Form) (letter : UInt8) : Option Nat :=
  if letter = 0x75 then some 4
  else if letter = 0x55 then some 8
  else if letter = 0x78 ∧ form = .full then some 2
  else none

def octalDigit? (byte : UInt8) : Option Nat :=
  if 0x30 ≤ byte.toNat ∧ byte.toNat ≤ 0x37 then some (byte.toNat - 0x30) else none

/-- The octal digits at the start of some bytes, three of them at most. -/
def octalDigits (bytes : List UInt8) : List Nat :=
  ((bytes.take 3).takeWhile fun byte => (octalDigit? byte).isSome).filterMap octalDigit?

/-- What the escape of a single letter stands for: a line feed for nothing. -/
def single? : UInt8 → Option Text
  | 0x0A => some []
  | 0x5C => some "\\"
  | 0x27 => some "'"
  | 0x22 => some "\""
  | 0x61 => some "\x07"
  | 0x62 => some "\x08"
  | 0x66 => some "\x0c"
  | 0x6E => some "\n"
  | 0x72 => some "\r"
  | 0x74 => some "\t"
  | 0x76 => some "\x0b"
  | _ => none

/-- Reads an escape by name, which stands in braces: what it stands for, and how many of the bytes
belong to it. -/
def name? : List UInt8 → Option (Text × Nat)
  | 0x7B :: rest =>
      let name := rest.takeWhile fun byte => byte != 0x7D
      if rest.length = name.length then none
      else
        (CharacterName.find? (Latin1.decode name)).map fun c => ([c], name.length + 2)
  | _ => none

/-- Reads an escape behind its backslash: what it stands for, and how many of the bytes belong to
it. -/
def escape? (form : Form) : List UInt8 → Option (Text × Nat)
  | [] => if form = .full then none else some ("\\", 0)
  | letter :: rest =>
      match digitCount? form letter with
      | some size =>
          ((number? rest size).filter fun n => n ≤ 0x10FFFF).map fun n =>
            ([.ofNat n], size + 1)
      | none =>
          if form = .numbers then some ([.ofChar '\\', .ofNat letter.toNat], 1)
          else if letter = 0x4E then (name? rest).map fun (t, size) => (t, size + 1)
          else
            match octalDigits (letter :: rest), single? letter with
            | [], some t => some (t, 1)
            | [], none => some ([.ofChar '\\', .ofNat letter.toNat], 1)
            | digits, _ =>
                some ([.ofNat (digits.foldl (fun v d => v * 8 + d) 0)], digits.length)

def decode? (form : Form) (bytes : List UInt8) : Option Text :=
  match bytes with
  | [] => some []
  | byte :: rest =>
      if byte = 0x5C then
        (escape? form rest).bind fun (t, size) =>
          (decode? form (rest.drop size)).map fun more => t ++ more
      else (decode? form rest).map fun more => .ofNat byte.toNat :: more
termination_by bytes.length

end ProofKey.Escaped
