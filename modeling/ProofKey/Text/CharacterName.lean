import ProofKey.Text.CharacterName.Aliases
import ProofKey.Text.CharacterName.AncientScripts
import ProofKey.Text.CharacterName.EastAsia
import ProofKey.Text.CharacterName.Forms
import ProofKey.Text.CharacterName.Hieroglyphs
import ProofKey.Text.CharacterName.MoreScripts
import ProofKey.Text.CharacterName.Notations
import ProofKey.Text.CharacterName.Pictographs
import ProofKey.Text.CharacterName.Scripts
import ProofKey.Text.CharacterName.Symbols
import ProofKey.Text.Hangul

/-!
# Characters by name

Every character of Unicode 14.0 has a name, apart from controls, which go by other names. Ideographs
are named by their number, the syllables of Hangul by their letters, and all other characters by
tables. These do not care about small letters; ideographs and syllables do.

A row of a table has the names of characters that follow each other, with semicolons between. Each
name begins with a digit: so many words are the same as in the name before.
-/

namespace ProofKey.CharacterName

/-- The words of a name, which begins with some words of the name before. -/
def words (before : List Text) : Text → List Text
  | [] => []
  | count :: rest => before.take (count.value - 0x30) ++ List.splitOn (CodePoint.ofChar ' ') rest

/-- Looks for a name among entries, of which the first one is that of code point `n`. -/
def search (name before : List Text) (n : Nat) : List Text → Option CodePoint
  | [] => none
  | entry :: more =>
      let current := words before entry
      if current = name then some (.ofNat n) else search name current (n + 1) more

/-- All rows. -/
def rows : List (Nat × String) :=
  scripts ++ moreScripts ++ symbols ++ eastAsia ++ forms ++ ancientScripts ++ hieroglyphs ++
    notations ++ pictographs ++ aliases

/-- The character whose name stands in the tables. -/
def listed? (name : Text) : Option CodePoint :=
  let capital := List.splitOn (CodePoint.ofChar ' ') (name.map CodePoint.toUpper)
  rows.findSome? fun (start, row) =>
    search capital [] start (List.splitOn (CodePoint.ofChar ';') (Text.ofString row))

/-- The value of a hexadecimal digit, which must not be a small letter. -/
def digit? (c : CodePoint) : Option Nat :=
  if c.isDigit then some (c.value - 0x30)
  else if CodePoint.between 'A' 'F' c then some (c.value - 0x41 + 10)
  else none

/-- The number that hexadecimal digits write. -/
def number? (digits : Text) : Option Nat :=
  (digits.mapM digit?).map fun values => values.foldl (fun n value => n * 16 + value) 0

/-- First and last code point of each range of ideographs. -/
def ideographs : List (Nat × Nat) := [
  (0x3400, 0x4DBF), (0x4E00, 0x9FFF), (0x20000, 0x2A6DF), (0x2A700, 0x2B738),
  (0x2B740, 0x2B81D), (0x2B820, 0x2CEA1), (0x2CEB0, 0x2EBE0), (0x30000, 0x3134A)]

/-- The ideograph of a number of four or five digits. -/
def ideograph? (digits : Text) : Option CodePoint :=
  if digits.length = 4 ∨ digits.length = 5 then
    ((number? digits).map CodePoint.ofNat).filter fun c => c.inRanges ideographs
  else none

/-- Other characters that are named by their number: what comes before the number, and the first and
the last code point of each range. -/
def numbered : List (String × Nat × Nat) := [
  ("CJK COMPATIBILITY IDEOGRAPH-", 0xF900, 0xFA6D),
  ("CJK COMPATIBILITY IDEOGRAPH-", 0xFA70, 0xFAD9),
  ("CJK COMPATIBILITY IDEOGRAPH-", 0x2F800, 0x2FA1D),
  ("KHITAN SMALL SCRIPT CHARACTER-", 0x18B00, 0x18CD5),
  ("NUSHU CHARACTER-", 0x1B170, 0x1B2FB)]

/-- The character of a range that a name with a number means. The number has no zero before it. -/
def numbered? (name : Text) (range : String × Nat × Nat) : Option CodePoint :=
  let (start, first, last) := range
  (Text.afterWord? start (name.map CodePoint.toUpper)).bind fun digits =>
    ((number? digits).filter fun n =>
      first ≤ n ∧ n ≤ last ∧ digits.head? ≠ some (CodePoint.ofChar '0')).map CodePoint.ofNat

/-- The character that a name means. -/
def find? (name : Text) : Option CodePoint :=
  match Text.afterWord? "HANGUL SYLLABLE " name, Text.afterWord? "CJK UNIFIED IDEOGRAPH-" name with
  | some letters, _ => Hangul.named? letters
  | none, some digits => ideograph? digits
  | none, none => (numbered.findSome? (numbered? name)).orElse fun _ => listed? name

end ProofKey.CharacterName
