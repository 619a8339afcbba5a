import ProofKey.Text.Grid.JisX0208
import ProofKey.Text.Grid.JisX0212
import ProofKey.Text.Grid.JisX0213
import ProofKey.Text.Grid.Windows31J
import ProofKey.Text.Multibyte

/-!
# Encodings of Japanese

EUC sets the high bits of row and cell; Shift JIS packs two rows of 94 cells into one first byte
with 188 second bytes. Either carries JIS X 0208, or JIS X 0213 in one of its two editions.
-/

namespace ProofKey.Japanese

inductive Edition where
  | of2000
  | of2004
  deriving DecidableEq, Repr

def katakana? (byte : Nat) : Option CodePoint :=
  if 0xA1 ≤ byte ∧ byte ≤ 0xDF then some (.ofNat (0xFEC0 + byte)) else none

/-- The Roman letters of JIS X 0201: ASCII with a yen sign and an overline. -/
def roman (byte : Nat) : CodePoint :=
  if byte = 0x5C then '¥' else if byte = 0x7E then '‾' else .ofNat byte

/-- The characters of the first plane that take two code points. -/
def two? : Nat → Nat → Option Text
  | 4, 87 => some "か\u309a"
  | 4, 88 => some "き\u309a"
  | 4, 89 => some "く\u309a"
  | 4, 90 => some "け\u309a"
  | 4, 91 => some "こ\u309a"
  | 5, 87 => some "カ\u309a"
  | 5, 88 => some "キ\u309a"
  | 5, 89 => some "ク\u309a"
  | 5, 90 => some "ケ\u309a"
  | 5, 91 => some "コ\u309a"
  | 5, 92 => some "セ\u309a"
  | 5, 93 => some "ツ\u309a"
  | 5, 94 => some "ト\u309a"
  | 6, 88 => some "ㇷ\u309a"
  | 11, 36 => some "æ\u0300"
  | 11, 40 => some "ɔ\u0300"
  | 11, 41 => some "ɔ\u0301"
  | 11, 42 => some "ʌ\u0300"
  | 11, 43 => some "ʌ\u0301"
  | 11, 44 => some "ə\u0300"
  | 11, 45 => some "ə\u0301"
  | 11, 46 => some "ɚ\u0300"
  | 11, 47 => some "ɚ\u0301"
  | 11, 69 => some "˩˥"
  | 11, 70 => some "˥˩"
  | _, _ => none

/-- The rows and cells of the ten ideographs that came with the second edition. -/
def added : List (Nat × Nat) :=
  [(14, 1), (15, 94), (47, 52), (47, 94), (84, 7), (94, 90), (94, 91), (94, 92), (94, 93), (94, 94)]

/-- The text of a place in the first plane of JIS X 0213. -/
def firstPlane? (edition : Edition) (row cell : Nat) : Option Text :=
  if edition = .of2000 ∧ added.contains (row, cell) then none
  else
    ((Grid.jisX0208.get? row cell <|> Grid.jisX0213First.get? row cell).map fun c => [c])
      <|> two? row cell

/-- The text of a place in the second plane, in which the second edition has changed one
ideograph. -/
def secondPlane? (edition : Edition) (row cell : Nat) : Option Text :=
  if edition = .of2000 ∧ row = 93 ∧ cell = 27 then some "鬝"
  else (Grid.jisX0213Second.get? row cell).map fun c => [c]

/-- EUC takes the tilde of JIS X 0213 for a wide one. -/
def wideTilde (t : Text) : Text := if t = Text.ofString "~" then "～" else t

/-- Shift JIS takes the wide backslash of JIS X 0213 for the one of ASCII. -/
def narrowBackslash (t : Text) : Text := if t = Text.ofString "＼" then "\\" else t

/-- What stands for the row and the cell of two bytes with their high bits set. -/
def highPair (find : Nat → Nat → Option Text) (a b : Nat) : Option Text :=
  if 0xA0 < a ∧ a < 0xFF ∧ 0xA0 < b ∧ b < 0xFF then find (a - 0xA0) (b - 0xA0) else none

/-- EUC with a set of characters. The byte 8E announces katakana, and 8F a second set. -/
def euc (firstSet secondSet : Nat → Nat → Option Text) : CharReader :=
  .orAscii fun first rest =>
    if first = 0x8E then CharReader.pair (fun _ b => (katakana? b).map fun c => [c]) first rest
    else if first = 0x8F then
      match rest with
      | second :: third :: _ =>
          (highPair secondSet second.toNat third.toNat).map fun t => (t, 2)
      | _ => none
    else CharReader.pair (highPair firstSet) first rest

/-- EUC with JIS X 0208 and JIS X 0212. -/
def eucJp : CharReader :=
  euc (fun row cell => (Grid.jisX0208.get? row cell).map fun c => [c])
    (fun row cell => (Grid.jisX0212.get? row cell).map fun c => [c])

/-- EUC with JIS X 0213, and with JIS X 0212 where the second plane has no rows. -/
def eucJisX0213 (edition : Edition) : CharReader :=
  euc (fun row cell => (firstPlane? edition row cell).map wideTilde) fun row cell =>
    secondPlane? edition row cell <|> (Grid.jisX0212.get? row cell).map fun c => [c]

/-- The row and the cell of two bytes of Shift JIS. The rows go on behind 94. -/
def place? (a b : Nat) : Option (Nat × Nat) :=
  let lead :=
    if 0x81 ≤ a ∧ a ≤ 0x9F then some (a - 0x81)
    else if 0xE0 ≤ a ∧ a ≤ 0xFC then some (a - 0xC1)
    else none
  let trail :=
    if 0x40 ≤ b ∧ b ≤ 0x7E then some (b - 0x40)
    else if 0x80 ≤ b ∧ b ≤ 0xFC then some (b - 0x41)
    else none
  lead.bind fun l => trail.map fun t => (2 * l + t / 94 + 1, t % 94 + 1)

/-- What stands for the row and the cell of two bytes of Shift JIS. -/
def shiftedPair (find : Nat → Nat → Option Text) (a b : Nat) : Option Text :=
  (place? a b).bind fun (row, cell) => find row cell

/-- Shift JIS with a set of characters, and with the katakana of half width as single bytes. -/
def shifted (find : Nat → Nat → Option Text) : CharReader := fun first rest =>
  match katakana? first.toNat with
  | some c => CharReader.single c
  | none => CharReader.pair (shiftedPair find) first rest

def shiftJis : CharReader :=
  .orAscii (shifted fun row cell => (Grid.jisX0208.get? row cell).map fun c => [c])

/-- The rows of the second plane, as Shift JIS counts them behind row 94. -/
def secondRows : List Nat := [1, 8, 3, 4, 5] ++ List.range' 12 4 ++ List.range' 78 17

/-- Shift JIS with JIS X 0213. Its single bytes are Roman letters of JIS X 0201. -/
def shiftJisX0213 (edition : Edition) : CharReader := fun first rest =>
  if first < 0x80 then CharReader.single (roman first.toNat)
  else
    shifted
      (fun row cell =>
        if row ≤ 94 then (firstPlane? edition row cell).map narrowBackslash
        else (secondRows[row - 95]?).bind fun r => secondPlane? edition r cell)
      first rest

/-- Windows takes six symbols of JIS X 0208 for other ones. -/
def windowsSymbol (c : CodePoint) : CodePoint :=
  if c = CodePoint.ofChar '〜' then '～'
  else if c = CodePoint.ofChar '‖' then '∥'
  else if c = CodePoint.ofChar '−' then '－'
  else if c = CodePoint.ofChar '¢' then '￠'
  else if c = CodePoint.ofChar '£' then '￡'
  else if c = CodePoint.ofChar '¬' then '￢'
  else c

/-- The character of a place in Shift JIS as Windows has it: behind the standard rows, twenty rows
for private use and those of vendors. -/
def windowsPlace? (row cell : Nat) : Option CodePoint :=
  (Grid.jisX0208.get? row cell).map windowsSymbol
    <|> Grid.vendorSymbols.get? row cell
    <|> Grid.vendorSelected.get? row cell
    <|> Grid.vendorExtension.get? row cell
    <|> if 95 ≤ row ∧ row ≤ 114 then some (.ofNat (0xE000 + (row - 95) * 94 + (cell - 1)))
      else none

/-- Shift JIS as Windows has it. The five bytes that are neither ASCII nor katakana nor begin a
pair stand for themselves or for private characters. -/
def windows31J : CharReader := fun first rest =>
  let n := first.toNat
  if n ≤ 0x80 then CharReader.single (.ofNat n)
  else if n = 0xA0 then CharReader.single (.ofNat 0xF8F0)
  else if 0xFD ≤ n then CharReader.single (.ofNat (0xF8F1 + (n - 0xFD)))
  else shifted (fun row cell => (windowsPlace? row cell).map fun c => [c]) first rest

end ProofKey.Japanese
