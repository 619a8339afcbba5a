import ProofKey.Text.CodePage.Ebcdic
import ProofKey.Text.CodePage.Macintosh
import ProofKey.Text.CodePage.Personal
import ProofKey.Text.CodePage.Regional
import ProofKey.Text.CodePage.Windows
import ProofKey.Text.Escaped
import ProofKey.Text.Iso2022
import ProofKey.Text.Latin1
import ProofKey.Text.Utf32
import ProofKey.Text.Utf7
import ProofKey.Text.Utf8

/-!
# Character sets by name

A sender may name the character set of its bytes. `named` finds the set of a name, in which only
letters, digits and dots count; `read` reads bytes in it. Bytes that are malformed in the set, or
whose set is not known, are read as Latin-1, in which nothing is malformed.
-/

namespace ProofKey

/-- A character set. Where the order of bytes is open, a byte order mark tells it, and without a
mark it is `little`; UTF-8 may have a mark that says nothing. -/
inductive Charset where
  | utf8
  | markedUtf8
  | utf7
  | utf16 (order : Option ByteOrder)
  | utf32 (order : Option ByteOrder)
  | page (codePage : CodePage)
  | multibyte (read : CharReader)
  | hz
  | iso2022 (variant : Iso2022.Variant)
  | escaped (form : Escaped.Form)
  | punycode
  | idna
  | undefined

namespace Charset

def dropMark : List UInt8 → List UInt8
  | 0xEF :: 0xBB :: 0xBF :: rest => rest
  | bytes => bytes

def ascii? (t : Text) : Option Text := if t.all CodePoint.isAscii then some t else none

/-- A text, unless there is none because bytes are malformed. -/
def orMalformed (t : Option Text) : Except DecodeError Text :=
  match t with
  | some t => .ok t
  | none => .error .malformed

def decode : Charset → List UInt8 → Except DecodeError Text
  | utf8, bytes => orMalformed (Utf8.decode? bytes)
  | markedUtf8, bytes => orMalformed (Utf8.decode? (dropMark bytes))
  | utf7, bytes => orMalformed (Utf7.decode? bytes)
  | utf16 order, bytes => orMalformed (Utf16.decode? order bytes)
  | utf32 order, bytes => orMalformed (Utf32.decode? order bytes)
  | page codePage, bytes => orMalformed (codePage.decode? bytes)
  | multibyte read, bytes => orMalformed (read.decode? bytes)
  | hz, bytes => orMalformed (Chinese.decodeHz false bytes)
  | iso2022 variant, bytes => Iso2022.decode variant bytes
  | escaped form, bytes => orMalformed (Escaped.decode? form bytes)
  | punycode, bytes => do
      let t ← orMalformed (ascii? (Latin1.decode bytes))
      (Punycode.decode t).mapError fun fault => .fault (.punycode fault)
  | idna, bytes => do
      let labels ← (List.splitOn (CodePoint.ofChar '.') (Latin1.decode bytes)).mapM fun label => do
        let t ← orMalformed (ascii? label)
        (Idna.read t).mapError fun fault => .fault (.idna fault)
      return List.intercalate (Text.ofString ".") labels
  | undefined, _ => .error (.fault .undefined)

/-- A character set under its names: the main one, and others. -/
structure Entry where
  name : Text
  aliases : List Text
  charset : Charset

/-- The Unicode sets, and those that are written in ASCII. -/
def unicode : List Entry :=
  [⟨"utf_8", ["u8", "utf", "utf8", "utf8_ucs2", "utf8_ucs4", "cp65001"], utf8⟩,
    ⟨"utf_8_sig", [], markedUtf8⟩,
    ⟨"utf_7", ["u7", "utf7", "unicode_1_1_utf_7"], utf7⟩,
    ⟨"utf_16", ["u16", "utf16"], utf16 none⟩,
    ⟨"utf_16_le", ["utf_16le", "unicodelittleunmarked"], utf16 (some .little)⟩,
    ⟨"utf_16_be", ["utf_16be", "unicodebigunmarked"], utf16 (some .big)⟩,
    ⟨"utf_32", ["u32", "utf32"], utf32 none⟩,
    ⟨"utf_32_le", ["utf_32le"], utf32 (some .little)⟩,
    ⟨"utf_32_be", ["utf_32be"], utf32 (some .big)⟩,
    ⟨"unicode_escape", [], escaped .full⟩,
    ⟨"raw_unicode_escape", [], escaped .numbers⟩,
    ⟨"punycode", [], punycode⟩,
    ⟨"idna", [], idna⟩,
    ⟨"undefined", [], undefined⟩]

def chinese : List Entry :=
  [⟨"gb2312", ["chinese", "csiso58gb231280", "euc_cn", "euccn", "eucgb2312_cn", "gb2312_1980",
      "gb2312_80", "iso_ir_58", "x_mac_simp_chinese"], multibyte Chinese.gb2312⟩,
    ⟨"gbk", ["936", "cp936", "ms936"], multibyte Chinese.gbk⟩,
    ⟨"gb18030", ["gb18030_2000"], multibyte Chinese.gb18030⟩,
    ⟨"hz", ["hzgb", "hz_gb", "hz_gb_2312"], hz⟩,
    ⟨"big5", ["big5_tw", "csbig5", "x_mac_trad_chinese"], multibyte Chinese.big5⟩,
    ⟨"cp950", ["950", "ms950"], multibyte Chinese.big5Windows⟩,
    ⟨"big5hkscs", ["big5_hkscs", "hkscs"], multibyte Chinese.big5Hkscs⟩]

def japanese : List Entry :=
  [⟨"euc_jp", ["eucjp", "ujis", "u_jis"], multibyte Japanese.eucJp⟩,
    ⟨"euc_jis_2004", ["jisx0213", "eucjis2004", "euc_jis2004"],
      multibyte (Japanese.eucJisX0213 .of2004)⟩,
    ⟨"euc_jisx0213", ["eucjisx0213"], multibyte (Japanese.eucJisX0213 .of2000)⟩,
    ⟨"shift_jis", ["csshiftjis", "shiftjis", "sjis", "s_jis", "x_mac_japanese"],
      multibyte Japanese.shiftJis⟩,
    ⟨"shift_jis_2004", ["shiftjis2004", "sjis_2004", "s_jis_2004"],
      multibyte (Japanese.shiftJisX0213 .of2004)⟩,
    ⟨"shift_jisx0213", ["shiftjisx0213", "sjisx0213", "s_jisx0213"],
      multibyte (Japanese.shiftJisX0213 .of2000)⟩,
    ⟨"cp932", ["932", "ms932", "mskanji", "ms_kanji"], multibyte Japanese.windows31J⟩,
    ⟨"iso2022_jp", ["csiso2022jp", "iso2022jp", "iso_2022_jp"], iso2022 Iso2022.jp⟩,
    ⟨"iso2022_jp_1", ["iso2022jp_1", "iso_2022_jp_1"], iso2022 Iso2022.jp1⟩,
    ⟨"iso2022_jp_2", ["iso2022jp_2", "iso_2022_jp_2"], iso2022 Iso2022.jp2⟩,
    ⟨"iso2022_jp_3", ["iso2022jp_3", "iso_2022_jp_3"], iso2022 Iso2022.jp3⟩,
    ⟨"iso2022_jp_2004", ["iso2022jp_2004", "iso_2022_jp_2004"], iso2022 Iso2022.jp2004⟩,
    ⟨"iso2022_jp_ext", ["iso2022jp_ext", "iso_2022_jp_ext"], iso2022 Iso2022.jpExt⟩]

def korean : List Entry :=
  [⟨"euc_kr", ["euckr", "korean", "ksc5601", "ks_c_5601", "ks_c_5601_1987", "ksx1001", "ks_x_1001",
      "x_mac_korean"], multibyte Korean.eucKr⟩,
    ⟨"cp949", ["949", "ms949", "uhc"], multibyte Korean.windows949⟩,
    ⟨"johab", ["cp1361", "ms1361"], multibyte Korean.johab⟩,
    ⟨"iso2022_kr", ["csiso2022kr", "iso2022kr", "iso_2022_kr"], iso2022 Iso2022.kr⟩]

def pages : List Entry :=
  (CodePage.iso8859 ++ CodePage.windows ++ CodePage.personal ++ CodePage.ebcdic ++
    CodePage.macintosh ++ CodePage.regional).map fun p => ⟨p.name, p.aliases, page p⟩

def entries : List Entry := unicode ++ chinese ++ japanese ++ korean ++ pages

/-- What counts in a name: letters, digits and dots of ASCII. -/
def isLabelChar (c : CodePoint) : Bool := c.isLetter || c.isDigit || c = CodePoint.ofChar '.'

/-- A name in small letters, with one underscore for all that stands between two words. -/
def canonical (label : Text) : Text :=
  let marked := label.map fun c => if isLabelChar c then c.toLower else CodePoint.ofChar '_'
  let words := (List.splitOn (CodePoint.ofChar '_') marked).filter fun word => !word.isEmpty
  List.intercalate (Text.ofString "_") words

def dotless (name : Text) : Text :=
  name.map fun c => if c = CodePoint.ofChar '.' then CodePoint.ofChar '_' else c

/-- Whether a set goes by a canonical name. A dot counts as an underscore in all names of a set but
the main one. -/
def Entry.goesBy (e : Entry) (name : Text) : Bool :=
  e.name == name || e.aliases.contains (dotless name)

/-- The character set of a name, if it is one of those known here. -/
def ofLabel? (label : Text) : Option Entry := entries.find? fun e => e.goesBy (canonical label)

def named (label : Text) : Except CharsetFault (Option Entry) :=
  if label.contains (CodePoint.ofChar '\x00') then .error .nulInName else .ok (ofLabel? label)

/-- The text of bytes in a character set, if it is known. No bytes are no text in every set. -/
def read (known : Option Entry) (bytes : List UInt8) : Except CharsetFault Text :=
  match known with
  | none => .ok (Latin1.decode bytes)
  | some entry =>
      if bytes.isEmpty then .ok []
      else
        match entry.charset.decode bytes with
        | .ok t => .ok t
        | .error .malformed => .ok (Latin1.decode bytes)
        | .error (.fault fault) => .error (.set entry.name fault)

end Charset

end ProofKey
