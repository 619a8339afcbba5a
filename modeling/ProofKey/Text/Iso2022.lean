import ProofKey.Text.Charset.Fault
import ProofKey.Text.Chinese
import ProofKey.Text.CodePage.Iso8859
import ProofKey.Text.Japanese
import ProofKey.Text.Korean

/-!
# ISO 2022

Bytes of seven bits are read in a set that escape sequences designate. There are two or three
places for sets: the first counts, or the second after a shift, and a single shift takes one
character from the third. Control characters stand for themselves in every set, and a line feed
ends a shift. An escape sequence of any other kind is kept as it stands.
-/

namespace ProofKey.Iso2022

inductive GraphicSet where
  | ascii
  | roman
  | katakana
  | latin1
  | greek
  | jisX0208
  | jisX0212
  | jisX0213First (edition : Japanese.Edition)
  | jisX0213Second
  | gb2312
  | ksX1001
  deriving DecidableEq, Repr

/-- Reads a pair of bytes that a grid has a character for. -/
def gridPair (g : Grid) : CharReader := .pair fun a b => (g.low? a b).map fun c => [c]

/-- Reads a character of a set. Latin-1 and Greek letters come by single shifts alone. -/
def GraphicSet.read : GraphicSet → CharReader
  | ascii => fun first _ => CharReader.single (.ofNat first.toNat)
  | roman => fun first _ => CharReader.single (Japanese.roman first.toNat)
  | katakana => fun first _ =>
      (Japanese.katakana? (first.toNat + 0x80)).bind fun c => CharReader.single c
  | latin1 => fun _ _ => none
  | greek => fun _ _ => none
  | jisX0208 => gridPair Grid.jisX0208
  | jisX0212 => gridPair Grid.jisX0212
  | jisX0213First edition =>
      .pair fun a b =>
        if 0x20 < a ∧ 0x20 < b then Japanese.firstPlane? edition (a - 0x20) (b - 0x20) else none
  | jisX0213Second => gridPair Grid.jisX0213Second
  | gb2312 => gridPair Grid.gb2312
  | ksX1001 => gridPair Grid.ksX1001

/-- The Greek letters, without the three signs that came to them later. -/
def greek? (byte : UInt8) : Option CodePoint :=
  if byte = 0xA4 ∨ byte = 0xA5 ∨ byte = 0xAA then none else CodePage.iso8859p7.decodeOne? byte

/-- The character that a single shift takes from a set. Letters of eight bits have their high bit
turned. -/
def GraphicSet.single (set : GraphicSet) (byte : UInt8) : Except DecodeError CodePoint :=
  match set with
  | ascii => if byte < 0x80 then .ok (.ofNat byte.toNat) else .error .malformed
  | latin1 => if byte < 0x80 then .ok (.ofNat (byte.toNat + 0x80)) else .error .malformed
  | greek =>
      match greek? (byte ^^^ 0x80) with
      | some c => .ok c
      | none => .error .malformed
  | _ => .error (.fault .singleShift)

/-- A way to use ISO 2022: which sets the final byte of an escape sequence designates, those of one
byte and those of two, and what else may be used. -/
structure Variant where
  narrow : List (UInt8 × GraphicSet)
  wide : List (UInt8 × GraphicSet)
  hasShifts : Bool
  hasThird : Bool
  hasPrefix : Bool
  deriving DecidableEq, Repr

/-- ASCII can be designated everywhere. -/
def Variant.narrow? (v : Variant) (final : UInt8) : Option GraphicSet :=
  if final = 0x42 then some .ascii else v.narrow.lookup final

def Variant.wide? (v : Variant) (final : UInt8) : Option GraphicSet := v.wide.lookup final

/-- The sets at the three places, whether a shift is on, and whether an escape sequence is kept. -/
structure State where
  first : GraphicSet := .ascii
  second : GraphicSet := .ascii
  third : GraphicSet := .ascii
  isShifted : Bool := false
  isKeeping : Bool := false
  deriving DecidableEq, Repr

def isFinal (byte : UInt8) : Bool := 0x40 ≤ byte && byte ≤ 0x5A

/-- The bytes that begin a designation behind the escape. -/
def isIntermediate (byte : UInt8) : Bool :=
  byte = 0x28 || byte = 0x29 || byte = 0x24 || byte = 0x2E || byte = 0x26

/-- The length of an escape sequence that is read from a position on. It has at most sixteen bytes.
With a prefix, `&@` and the byte behind it end none. -/
def sequenceLength? (hasPrefix : Bool) (position : Nat) (bytes : List UInt8) : Option Nat :=
  if 16 ≤ position then none
  else
    match bytes with
    | [] => none
    | byte :: rest =>
        if isFinal byte then some (position + 1)
        else if hasPrefix && byte = 0x26 && rest.head? = some 0x40 then
          sequenceLength? hasPrefix (position + 3) (rest.drop 2)
        else sequenceLength? hasPrefix (position + 1) rest
termination_by bytes.length

/-- What an escape sequence designates, given by its bytes behind the escape. -/
def designate? (v : Variant) (s : State) : List UInt8 → Option State
  | [0x24, final] => (v.wide? final).map fun set => { s with first := set }
  | [0x28, final] => (v.narrow? final).map fun set => { s with first := set }
  | [0x29, final] => (v.narrow? final).map fun set => { s with second := set }
  | [0x2E, final] =>
      if v.hasThird then (v.narrow? final).map fun set => { s with third := set } else none
  | [0x24, 0x28, final] => (v.wide? final).map fun set => { s with first := set }
  | [0x24, 0x29, final] => (v.wide? final).map fun set => { s with second := set }
  | [_, _, 0x1B, 0x24, 0x42] =>
      if v.hasPrefix then (v.wide? 0x42).map fun set => { s with first := set } else none
  | _ => none

inductive Step where
  /-- It stands for some text, perhaps together with bytes behind it, and the state may change. -/
  | next (t : Text) (size : Nat) (state : State)
  /-- It cannot be read. -/
  | stop (error : DecodeError)
  deriving DecidableEq, Repr

def escape (v : Variant) (s : State) (rest : List UInt8) : Step :=
  match rest with
  | [] => .stop .malformed
  | byte :: more =>
      if isIntermediate byte then
        match (sequenceLength? v.hasPrefix 1 rest).bind fun size =>
            (designate? v s (rest.take (size - 1))).map fun state => (size - 1, state) with
        | some (size, state) => .next [] size state
        | none => .stop .malformed
      else if v.hasThird && byte = 0x4E then
        match more with
        | [] => .stop .malformed
        | shifted :: _ =>
            match s.third.single shifted with
            | .ok c => .next [c] 2 s
            | .error error => .stop error
      else .next [.ofNat 0x1B] 0 { s with isKeeping := true }

def step (v : Variant) (s : State) (byte : UInt8) (rest : List UInt8) : Step :=
  let itself : Text := [.ofNat byte.toNat]
  if s.isKeeping then .next itself 0 { s with isKeeping := !isFinal byte }
  else if byte = 0x1B then escape v s rest
  else if byte = 0x0A then .next itself 0 { s with isShifted := false }
  else if v.hasShifts && byte = 0x0F then .next [] 0 { s with isShifted := false }
  else if v.hasShifts && byte = 0x0E then .next [] 0 { s with isShifted := true }
  else if byte < 0x20 then .next itself 0 s
  else if 0x80 ≤ byte then .stop .malformed
  else
    match (if s.isShifted then s.second else s.first).read byte rest with
    | some (t, size) => .next t size s
    | none => .stop .malformed

def decodeFrom (v : Variant) (s : State) (bytes : List UInt8) : Except DecodeError Text :=
  match bytes with
  | [] => .ok []
  | byte :: rest =>
      match step v s byte rest with
      | .next t size state => (decodeFrom v state (rest.drop size)).map fun more => t ++ more
      | .stop error => .error error
termination_by bytes.length

def decode (v : Variant) (bytes : List UInt8) : Except DecodeError Text := decodeFrom v {} bytes

/-- ISO-2022-JP, with ASCII, Roman letters and both editions of JIS X 0208. -/
def jp : Variant where
  narrow := [(0x4A, .roman)]
  wide := [(0x42, .jisX0208), (0x40, .jisX0208)]
  hasShifts := false
  hasThird := false
  hasPrefix := true

/-- The variant with JIS X 0212 as well. -/
def jp1 : Variant := { jp with wide := jp.wide ++ [(0x44, .jisX0212)] }

/-- The variant for more languages. -/
def jp2 : Variant :=
  { jp1 with
    narrow := jp.narrow ++ [(0x41, .latin1), (0x46, .greek)]
    wide := jp1.wide ++ [(0x43, .ksX1001), (0x41, .gb2312)]
    hasThird := true }

/-- The variant with JIS X 0213 in its first edition. -/
def jp3 : Variant :=
  { jp with
    narrow := []
    wide := [(0x42, .jisX0208), (0x4F, .jisX0213First .of2000), (0x50, .jisX0213Second)] }

/-- The variant with JIS X 0213 in its second edition. -/
def jp2004 : Variant :=
  { jp3 with
    wide := [(0x42, .jisX0208), (0x51, .jisX0213First .of2004), (0x50, .jisX0213Second)] }

/-- The variant with the katakana of half width. -/
def jpExt : Variant := { jp1 with narrow := jp.narrow ++ [(0x49, .katakana)] }

/-- ISO-2022-KR, with shifts between ASCII and KS X 1001. -/
def kr : Variant where
  narrow := []
  wide := [(0x43, .ksX1001)]
  hasShifts := true
  hasThird := false
  hasPrefix := false

end ProofKey.Iso2022
