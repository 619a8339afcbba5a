import ProofKey.Text.Pieces
import ProofKey.Text.Printable

/-!
# Quoted text

Messages quote a text so that it fits on one line and nothing in it is invisible. The quote is
`'`, unless the text holds a `'` and no `"`. A backslash and the chosen quote take a backslash
before them, what is unprintable becomes an escape of two, four or eight hexadecimal digits, and
tab, line feed and carriage return have short escapes.
-/

namespace ProofKey.Text

/-- Digits of `n` in lower-case hexadecimal, filled up with zeros to `width`. -/
def hex (width n : Nat) : Text :=
  let digits := Nat.toDigits 16 n
  (List.replicate (width - digits.length) '0' ++ digits).map .ofChar

/-- The escape by number: the shortest of the three forms that holds it. -/
def escapeByNumber (c : CodePoint) : Text :=
  if c.value ≤ 0xFF then "\\x" ++ hex 2 c.value
  else if c.value ≤ 0xFFFF then "\\u" ++ hex 4 c.value
  else "\\U" ++ hex 8 c.value

def escapeQuoted (quote c : CodePoint) : Text :=
  if c = quote ∨ c = CodePoint.ofChar '\\' then ['\\', c]
  else if c = CodePoint.ofChar '\t' then "\\t"
  else if c = CodePoint.ofChar '\n' then "\\n"
  else if c = CodePoint.ofChar '\r' then "\\r"
  else if isPrintable c then [c]
  else escapeByNumber c

/-- The quote that needs no escape, the single one where both would do or neither. -/
def quoteMark (t : Text) : CodePoint :=
  let single := CodePoint.ofChar '\''
  let double := CodePoint.ofChar '"'
  if t.contains single && !t.contains double then double else single

def quoted (t : Text) : Text :=
  let mark := quoteMark t
  mark :: t.flatMap (escapeQuoted mark) ++ [mark]

/-- Texts in quotes, in brackets, with a comma and a space between two of them. -/
def quotedList (ts : List Text) : Text :=
  "[" ++ List.intercalate (ofString ", ") (ts.map quoted) ++ "]"

end ProofKey.Text
