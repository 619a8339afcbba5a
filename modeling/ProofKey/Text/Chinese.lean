import ProofKey.Text.Absent
import ProofKey.Text.Grid.Big5
import ProofKey.Text.Grid.Gb2312
import ProofKey.Text.Grid.Gbk
import ProofKey.Text.Grid.Hkscs
import ProofKey.Text.Multibyte

/-!
# Encodings of Chinese

GB 2312 and what has grown from it: GBK, which has all ideographs of the first version of Unicode,
and GB 18030, which has all of Unicode. HZ keeps GB 2312 within ASCII by signs that switch it on
and off. Big5 stands apart, with the additions of Windows and of Hong Kong.
-/

namespace ProofKey.Chinese

/-- GB 2312 with the high bit of both bytes set. -/
def gb2312 : CharReader :=
  .orAscii (.pair fun a b => (Grid.gb2312.high? a b).map fun c => [c])

/-- GBK takes two symbols of GB 2312 for other ones. -/
def refine (c : CodePoint) : CodePoint :=
  if c = CodePoint.ofChar '・' then '·' else if c = CodePoint.ofChar '―' then '—' else c

/-- The place of a second byte of GBK, counted from zero. -/
def gbkTrail? (b : Nat) : Option Nat :=
  if 0x40 ≤ b ∧ b < 0x7F then some (b - 0x40)
  else if 0x80 ≤ b ∧ b < 0xFF then some (b - 0x41)
  else none

/-- The number of second bytes of GBK that are less than A1. -/
def lowTrails : Nat := 96

/-- The ideographs that GBK has beside those of GB 2312: first what GB 2312 lacks of the first
block of Unicode, then some for compatibility. -/
def gbkIdeographs : Array CodePoint :=
  Text.absent 0x4E00 0x9FA5 Grid.gb2312.characters ++
    (Text.ofString Grid.gbkCompatibility).toArray

/-- The place of a pair among the ideographs of GBK, which fill the rows before those of GB 2312
and then the lower cells of later rows. -/
def gbkIdeographIndex? (a b : Nat) : Option Nat :=
  (gbkTrail? b).bind fun trail =>
    if 0x81 ≤ a ∧ a ≤ 0xA0 then some ((a - 0x81) * 190 + trail)
    else if 0xAA ≤ a ∧ a ≤ 0xFE ∧ trail < lowTrails then
      some (32 * 190 + (a - 0xAA) * lowTrails + trail)
    else none

/-- The symbol of a pair in the lower cells of the rows of GB 2312. -/
def gbkLowSymbol? (a b : Nat) : Option CodePoint :=
  (gbkTrail? b).bind fun trail =>
    if trail < lowTrails then Grid.gbkLow.get? a (trail + 1) else none

def gbkPair? (a b : Nat) : Option CodePoint :=
  ((Grid.gb2312.high? a b).map refine)
    <|> Grid.gbkHigh.high? a b
    <|> gbkLowSymbol? a b
    <|> (gbkIdeographIndex? a b).bind fun i => gbkIdeographs[i]?

def gbk : CharReader := .orAscii (.pair fun a b => (gbkPair? a b).map fun c => [c])

/-- The place of a pair in the areas for users: six rows, seven rows, and the lower cells of the
first seven rows of GB 2312. -/
def userIndex? (a b : Nat) : Option Nat :=
  if 0xAA ≤ a ∧ a ≤ 0xAF ∧ 0xA1 ≤ b ∧ b ≤ 0xFE then some ((a - 0xAA) * 94 + (b - 0xA1))
  else if 0xF8 ≤ a ∧ a ≤ 0xFE ∧ 0xA1 ≤ b ∧ b ≤ 0xFE then
    some (6 * 94 + (a - 0xF8) * 94 + (b - 0xA1))
  else if 0xA1 ≤ a ∧ a ≤ 0xA7 then
    ((gbkTrail? b).filter fun trail => trail < lowTrails).map fun trail =>
      13 * 94 + (a - 0xA1) * lowTrails + trail
  else none

def userCells : Nat := 13 * 94 + 7 * lowTrails

def privateStart : Nat := 0xE000

/-- The place of a pair in some gaps, counted through them. -/
def gapIndex? (pair : Nat) : List (Nat × Nat) → Option Nat
  | [] => none
  | (first, size) :: more =>
      if first ≤ pair ∧ pair < first + size then some (pair - first)
      else (gapIndex? pair more).map fun i => size + i

def gapCells : Nat := Grid.gbkGaps.foldl (fun cells (_, size) => cells + size) 0

/-- The character that GB 18030 has in a gap. Private characters there go on behind those of the
areas for users, as if none were left out. -/
def gapCharacter (i : Nat) : CodePoint :=
  (((Text.ofString Grid.gapCharacters)[i]?).filter Grid.isCharacter).getD
    (.ofNat (privateStart + userCells + i))

def gb18030Pair? (a b : Nat) : Option CodePoint :=
  gbkPair? a b
    <|> (userIndex? a b).map (fun i => .ofNat (privateStart + i))
    <|> (gapIndex? (a * 0x100 + b) Grid.gbkGaps).map gapCharacter

/-- All characters of two bytes of GB 18030, and the surrogates, which have no bytes at all. -/
def gb18030Short : Text :=
  Grid.gb2312.characters.map refine ++ Grid.gbkHigh.characters ++ Grid.gbkLow.characters ++
    gbkIdeographs.toList ++ (List.range userCells).map (fun i => .ofNat (privateStart + i)) ++
    (List.range gapCells).map gapCharacter ++
    (List.range 0x800).map fun i => .ofNat (0xD800 + i)

/-- The characters of four bytes below U+10000: those that have no two bytes. -/
def gb18030Long : Array CodePoint := Text.absent 0x80 0xFFFF gb18030Short

/-- The character of four bytes. Above U+FFFF they count through all code points. -/
def gb18030Quad? (a b c d : Nat) : Option CodePoint :=
  if 0x81 ≤ a ∧ a ≤ 0xFE ∧ 0x30 ≤ b ∧ b ≤ 0x39 ∧ 0x81 ≤ c ∧ c ≤ 0xFE ∧ 0x30 ≤ d ∧ d ≤ 0x39 then
    let i := (((a - 0x81) * 10 + (b - 0x30)) * 126 + (c - 0x81)) * 10 + (d - 0x30)
    if a < 0x90 then gb18030Long[i]?
    else
      let n := 0x10000 + i - 15 * 12600
      if n ≤ 0x10FFFF then some (.ofNat n) else none
  else none

/-- GB 18030. A digit as second byte tells four bytes from two. -/
def gb18030 : CharReader :=
  .orAscii fun first rest =>
    match rest with
    | [] => none
    | second :: more =>
        if 0x30 ≤ second ∧ second ≤ 0x39 then
          match more with
          | third :: fourth :: _ =>
              (gb18030Quad? first.toNat second.toNat third.toNat fourth.toNat).map fun c =>
                ([c], 3)
          | _ => none
        else (gb18030Pair? first.toNat second.toNat).map fun c => ([c], 1)

/-- Reads HZ, in GB 2312 or in ASCII. A tilde begins a sign: in ASCII for a tilde, for the start of
GB 2312, or for a line end that does not count, and in GB 2312 for its end. -/
def decodeHz (inGb : Bool) : List UInt8 → Option Text
  | [] => some []
  | [a] => if inGb ∨ a = 0x7E ∨ 0x80 ≤ a then none else some [.ofNat a.toNat]
  | a :: b :: rest =>
      if a = 0x7E then
        if inGb then if b = 0x7D then decodeHz false rest else none
        else if b = 0x7E then (decodeHz false rest).map fun t => .ofChar '~' :: t
        else if b = 0x7B then decodeHz true rest
        else if b = 0x0A then decodeHz false rest
        else none
      else if 0x80 ≤ a then none
      else if inGb then
        (Grid.gb2312.low? a.toNat b.toNat).bind fun c => (decodeHz true rest).map fun t => c :: t
      else (decodeHz false (b :: rest)).map fun t => .ofNat a.toNat :: t

def big5Cell? (b : Nat) : Option Nat :=
  if 0x40 ≤ b ∧ b < 0x7F then some (b - 0x3F)
  else if 0xA1 ≤ b ∧ b < 0xFF then some (b - 0x61)
  else none

/-- The character that a grid with rows of Big5 has for a pair. -/
def big5In? (g : Grid) (a b : Nat) : Option CodePoint := (big5Cell? b).bind (g.get? a)

def big5 : CharReader := .orAscii (.pair fun a b => (big5In? Grid.big5 a b).map fun c => [c])

/-- The symbols that Windows takes for other ones than Big5, and its euro sign. -/
def windowsSymbol? : Nat → Option CodePoint
  | 0xA145 => some '‧'
  | 0xA14E => some '﹑'
  | 0xA1C2 => some '¯'
  | 0xA1E3 => some '～'
  | 0xA1F2 => some '⊕'
  | 0xA1F3 => some '⊙'
  | 0xA241 => some '∕'
  | 0xA242 => some '﹨'
  | 0xA244 => some '￥'
  | 0xA246 => some '￠'
  | 0xA247 => some '￡'
  | 0xA3E1 => some '€'
  | _ => none

def big5Windows : CharReader :=
  .orAscii (.pair fun a b =>
    (windowsSymbol? (a * 0x100 + b) <|> big5In? Grid.big5 a b <|> big5In? Grid.big5Windows a b).map
      fun c => [c])

/-- The characters of Hong Kong that take two code points: a letter with two marks, of which one is
part of the letter. -/
def hkscsTwo? : Nat → Option Text
  | 0x8862 => some "\xca\u0304"
  | 0x8864 => some "\xca\u030c"
  | 0x88A3 => some "\xea\u0304"
  | 0x88A5 => some "\xea\u030c"
  | _ => none

/-- Where Hong Kong does not keep to Big5: the rows of letters and signs behind the first level of
ideographs. -/
def isHkscsMiddle (a b : Nat) : Bool := a == 0xC6 && 0xA1 ≤ b || a == 0xC7 || a == 0xC8

def big5Hkscs : CharReader :=
  .orAscii (.pair fun a b =>
    ((if isHkscsMiddle a b then big5In? Grid.hkscsMiddle a b
      else
        big5In? Grid.big5 a b <|> big5In? Grid.hkscsLow a b <|> big5In? Grid.hkscsHigh a b).map
          fun c => [c])
      <|> hkscsTwo? (a * 0x100 + b))

end ProofKey.Chinese
