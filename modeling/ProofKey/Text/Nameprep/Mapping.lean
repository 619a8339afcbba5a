import ProofKey.Text

/-!
# What stands for what in a name

Capital letters stand for small ones in a name, and some letters for two or three (RFC 3454,
table B.2). Other tables know more capital letters than that one; those of Unicode 14.0 count here.
Some characters that nobody sees are left out (table B.1).
-/

namespace ProofKey.Nameprep

/-- The code points that are left out: first and last of each range. -/
def ignored : List (Nat × Nat) := [
  (0xAD, 0xAD), (0x34F, 0x34F), (0x1806, 0x1806), (0x180B, 0x180D), (0x200B, 0x200D),
  (0x2060, 0x2060), (0xFE00, 0xFE0F), (0xFEFF, 0xFEFF)]

/-- The letters that stand for another one at the same distance: the first and the last of them,
from each to the next one, and what the first one stands for. -/
def letterRuns : List (Nat × Nat × Nat × Nat) := [
  (0x41, 0x5A, 1, 0x61), (0xC0, 0xD6, 1, 0xE0), (0xD8, 0xDE, 1, 0xF8), (0x100, 0x12E, 2, 0x101),
  (0x132, 0x136, 2, 0x133), (0x139, 0x147, 2, 0x13A), (0x14A, 0x176, 2, 0x14B),
  (0x179, 0x17D, 2, 0x17A), (0x182, 0x184, 2, 0x183), (0x189, 0x18A, 1, 0x256),
  (0x1A0, 0x1A4, 2, 0x1A1), (0x1B1, 0x1B2, 1, 0x28A), (0x1B3, 0x1B5, 2, 0x1B4),
  (0x1CB, 0x1DB, 2, 0x1CC), (0x1DE, 0x1EE, 2, 0x1DF), (0x1F2, 0x1F4, 2, 0x1F3),
  (0x1F8, 0x21E, 2, 0x1F9), (0x222, 0x232, 2, 0x223), (0x246, 0x24E, 2, 0x247),
  (0x370, 0x372, 2, 0x371), (0x388, 0x38A, 1, 0x3AD), (0x38E, 0x38F, 1, 0x3CD),
  (0x391, 0x3A1, 1, 0x3B1), (0x3A3, 0x3AB, 1, 0x3C3), (0x3D8, 0x3EE, 2, 0x3D9),
  (0x3FD, 0x3FF, 1, 0x37B), (0x400, 0x40F, 1, 0x450), (0x410, 0x42F, 1, 0x430),
  (0x460, 0x480, 2, 0x461), (0x48A, 0x4BE, 2, 0x48B), (0x4C1, 0x4CD, 2, 0x4C2),
  (0x4D0, 0x52E, 2, 0x4D1), (0x531, 0x556, 1, 0x561), (0x10A0, 0x10C5, 1, 0x2D00),
  (0x13A0, 0x13EF, 1, 0xAB70), (0x13F0, 0x13F5, 1, 0x13F8), (0x1C90, 0x1CBA, 1, 0x10D0),
  (0x1CBD, 0x1CBF, 1, 0x10FD), (0x1E00, 0x1E94, 2, 0x1E01), (0x1EA0, 0x1EFE, 2, 0x1EA1),
  (0x1F08, 0x1F0F, 1, 0x1F00), (0x1F18, 0x1F1D, 1, 0x1F10), (0x1F28, 0x1F2F, 1, 0x1F20),
  (0x1F38, 0x1F3F, 1, 0x1F30), (0x1F48, 0x1F4D, 1, 0x1F40), (0x1F59, 0x1F5F, 2, 0x1F51),
  (0x1F68, 0x1F6F, 1, 0x1F60), (0x1FB8, 0x1FB9, 1, 0x1FB0), (0x1FBA, 0x1FBB, 1, 0x1F70),
  (0x1FC8, 0x1FCB, 1, 0x1F72), (0x1FD8, 0x1FD9, 1, 0x1FD0), (0x1FDA, 0x1FDB, 1, 0x1F76),
  (0x1FE8, 0x1FE9, 1, 0x1FE0), (0x1FEA, 0x1FEB, 1, 0x1F7A), (0x1FF8, 0x1FF9, 1, 0x1F78),
  (0x1FFA, 0x1FFB, 1, 0x1F7C), (0x2119, 0x211B, 1, 0x70), (0x212C, 0x212D, 1, 0x62),
  (0x2130, 0x2131, 1, 0x65), (0x2160, 0x216F, 1, 0x2170), (0x24B6, 0x24CF, 1, 0x24D0),
  (0x2C00, 0x2C2F, 1, 0x2C30), (0x2C67, 0x2C6B, 2, 0x2C68), (0x2C7E, 0x2C7F, 1, 0x23F),
  (0x2C80, 0x2CE2, 2, 0x2C81), (0x2CEB, 0x2CED, 2, 0x2CEC), (0xA640, 0xA66C, 2, 0xA641),
  (0xA680, 0xA69A, 2, 0xA681), (0xA722, 0xA72E, 2, 0xA723), (0xA732, 0xA76E, 2, 0xA733),
  (0xA779, 0xA77B, 2, 0xA77A), (0xA77E, 0xA786, 2, 0xA77F), (0xA790, 0xA792, 2, 0xA791),
  (0xA796, 0xA7A8, 2, 0xA797), (0xA7B4, 0xA7C2, 2, 0xA7B5), (0xA7C7, 0xA7C9, 2, 0xA7C8),
  (0xA7D6, 0xA7D8, 2, 0xA7D7), (0xFF21, 0xFF3A, 1, 0xFF41), (0x10400, 0x10427, 1, 0x10428),
  (0x104B0, 0x104D3, 1, 0x104D8), (0x10570, 0x10594, 2, 0x10597), (0x10571, 0x10579, 2, 0x10598),
  (0x1057D, 0x10589, 2, 0x105A4), (0x1058D, 0x10591, 2, 0x105B4), (0x10C80, 0x10CB2, 1, 0x10CC0),
  (0x118A0, 0x118BF, 1, 0x118C0), (0x16E40, 0x16E5F, 1, 0x16E60), (0x1D400, 0x1D419, 1, 0x61),
  (0x1D434, 0x1D44D, 1, 0x61), (0x1D468, 0x1D481, 1, 0x61), (0x1D49C, 0x1D49E, 2, 0x61),
  (0x1D4A5, 0x1D4A6, 1, 0x6A), (0x1D4A9, 0x1D4AC, 1, 0x6E), (0x1D4AE, 0x1D4B5, 1, 0x73),
  (0x1D4D0, 0x1D4E9, 1, 0x61), (0x1D504, 0x1D505, 1, 0x61), (0x1D507, 0x1D50A, 1, 0x64),
  (0x1D50D, 0x1D514, 1, 0x6A), (0x1D516, 0x1D51C, 1, 0x73), (0x1D538, 0x1D539, 1, 0x61),
  (0x1D53B, 0x1D53E, 1, 0x64), (0x1D540, 0x1D544, 1, 0x69), (0x1D54A, 0x1D550, 1, 0x73),
  (0x1D56C, 0x1D585, 1, 0x61), (0x1D5A0, 0x1D5B9, 1, 0x61), (0x1D5D4, 0x1D5ED, 1, 0x61),
  (0x1D608, 0x1D621, 1, 0x61), (0x1D63C, 0x1D655, 1, 0x61), (0x1D670, 0x1D689, 1, 0x61),
  (0x1D6A8, 0x1D6B8, 1, 0x3B1), (0x1D6BA, 0x1D6C0, 1, 0x3C3), (0x1D6E2, 0x1D6F2, 1, 0x3B1),
  (0x1D6F4, 0x1D6FA, 1, 0x3C3), (0x1D71C, 0x1D72C, 1, 0x3B1), (0x1D72E, 0x1D734, 1, 0x3C3),
  (0x1D756, 0x1D766, 1, 0x3B1), (0x1D768, 0x1D76E, 1, 0x3C3), (0x1D790, 0x1D7A0, 1, 0x3B1),
  (0x1D7A2, 0x1D7A8, 1, 0x3C3), (0x1E900, 0x1E921, 1, 0x1E922)]

/-- The other letters that stand for another one, or for more than one. -/
def letters : List (Nat × String) := [
  (0xB5, "μ"), (0xDF, "ss"), (0x130, "i\u0307"), (0x149, "ʼn"), (0x178, "ÿ"), (0x17F, "s"),
  (0x181, "ɓ"), (0x186, "ɔ"), (0x187, "ƈ"), (0x18B, "ƌ"), (0x18E, "ǝ"), (0x18F, "ə"),
  (0x190, "ɛ"), (0x191, "ƒ"), (0x193, "ɠ"), (0x194, "ɣ"), (0x196, "ɩ"), (0x197, "ɨ"),
  (0x198, "ƙ"), (0x19C, "ɯ"), (0x19D, "ɲ"), (0x19F, "ɵ"), (0x1A6, "ʀ"), (0x1A7, "ƨ"),
  (0x1A9, "ʃ"), (0x1AC, "ƭ"), (0x1AE, "ʈ"), (0x1AF, "ư"), (0x1B7, "ʒ"), (0x1B8, "ƹ"),
  (0x1BC, "ƽ"), (0x1C4, "ǆ"), (0x1C5, "ǆ"), (0x1C7, "ǉ"), (0x1C8, "ǉ"), (0x1CA, "ǌ"),
  (0x1F0, "j\u030c"), (0x1F1, "ǳ"), (0x1F6, "ƕ"), (0x1F7, "ƿ"), (0x220, "ƞ"), (0x23A, "ⱥ"),
  (0x23B, "ȼ"), (0x23D, "ƚ"), (0x23E, "ⱦ"), (0x241, "ɂ"), (0x243, "ƀ"), (0x244, "ʉ"),
  (0x245, "ʌ"), (0x345, "ι"), (0x376, "ͷ"), (0x37A, " ι"), (0x37F, "ϳ"), (0x386, "ά"),
  (0x38C, "ό"), (0x390, "ι\u0308\u0301"), (0x3B0, "υ\u0308\u0301"), (0x3C2, "σ"), (0x3CF, "ϗ"),
  (0x3D0, "β"), (0x3D1, "θ"), (0x3D2, "υ"), (0x3D3, "ύ"), (0x3D4, "ϋ"), (0x3D5, "φ"),
  (0x3D6, "π"), (0x3F0, "κ"), (0x3F1, "ρ"), (0x3F2, "σ"), (0x3F4, "θ"), (0x3F5, "ε"),
  (0x3F7, "ϸ"), (0x3F9, "σ"), (0x3FA, "ϻ"), (0x4C0, "ӏ"), (0x587, "եւ"), (0x10C7, "ⴧ"),
  (0x10CD, "ⴭ"), (0x1E96, "h\u0331"), (0x1E97, "t\u0308"), (0x1E98, "w\u030a"),
  (0x1E99, "y\u030a"), (0x1E9A, "aʾ"), (0x1E9B, "ṡ"), (0x1E9E, "ss"), (0x1F50, "υ\u0313"),
  (0x1F52, "υ\u0313\u0300"), (0x1F54, "υ\u0313\u0301"), (0x1F56, "υ\u0313\u0342"),
  (0x1F80, "ἀι"), (0x1F81, "ἁι"), (0x1F82, "ἂι"), (0x1F83, "ἃι"), (0x1F84, "ἄι"), (0x1F85, "ἅι"),
  (0x1F86, "ἆι"), (0x1F87, "ἇι"), (0x1F88, "ἀι"), (0x1F89, "ἁι"), (0x1F8A, "ἂι"), (0x1F8B, "ἃι"),
  (0x1F8C, "ἄι"), (0x1F8D, "ἅι"), (0x1F8E, "ἆι"), (0x1F8F, "ἇι"), (0x1F90, "ἠι"), (0x1F91, "ἡι"),
  (0x1F92, "ἢι"), (0x1F93, "ἣι"), (0x1F94, "ἤι"), (0x1F95, "ἥι"), (0x1F96, "ἦι"), (0x1F97, "ἧι"),
  (0x1F98, "ἠι"), (0x1F99, "ἡι"), (0x1F9A, "ἢι"), (0x1F9B, "ἣι"), (0x1F9C, "ἤι"), (0x1F9D, "ἥι"),
  (0x1F9E, "ἦι"), (0x1F9F, "ἧι"), (0x1FA0, "ὠι"), (0x1FA1, "ὡι"), (0x1FA2, "ὢι"), (0x1FA3, "ὣι"),
  (0x1FA4, "ὤι"), (0x1FA5, "ὥι"), (0x1FA6, "ὦι"), (0x1FA7, "ὧι"), (0x1FA8, "ὠι"), (0x1FA9, "ὡι"),
  (0x1FAA, "ὢι"), (0x1FAB, "ὣι"), (0x1FAC, "ὤι"), (0x1FAD, "ὥι"), (0x1FAE, "ὦι"), (0x1FAF, "ὧι"),
  (0x1FB2, "ὰι"), (0x1FB3, "αι"), (0x1FB4, "άι"), (0x1FB6, "α\u0342"), (0x1FB7, "α\u0342ι"),
  (0x1FBC, "αι"), (0x1FBE, "ι"), (0x1FC2, "ὴι"), (0x1FC3, "ηι"), (0x1FC4, "ήι"),
  (0x1FC6, "η\u0342"), (0x1FC7, "η\u0342ι"), (0x1FCC, "ηι"), (0x1FD2, "ι\u0308\u0300"),
  (0x1FD3, "ι\u0308\u0301"), (0x1FD6, "ι\u0342"), (0x1FD7, "ι\u0308\u0342"),
  (0x1FE2, "υ\u0308\u0300"), (0x1FE3, "υ\u0308\u0301"), (0x1FE4, "ρ\u0313"), (0x1FE6, "υ\u0342"),
  (0x1FE7, "υ\u0308\u0342"), (0x1FEC, "ῥ"), (0x1FF2, "ὼι"), (0x1FF3, "ωι"), (0x1FF4, "ώι"),
  (0x1FF6, "ω\u0342"), (0x1FF7, "ω\u0342ι"), (0x1FFC, "ωι"), (0x20A8, "rs"), (0x2102, "c"),
  (0x2103, "°c"), (0x2107, "ɛ"), (0x2109, "°f"), (0x210B, "h"), (0x210C, "h"), (0x210D, "h"),
  (0x2110, "i"), (0x2111, "i"), (0x2112, "l"), (0x2115, "n"), (0x2116, "no"), (0x211C, "r"),
  (0x211D, "r"), (0x2120, "sm"), (0x2121, "tel"), (0x2122, "tm"), (0x2124, "z"), (0x2126, "ω"),
  (0x2128, "z"), (0x212A, "k"), (0x212B, "å"), (0x2132, "ⅎ"), (0x2133, "m"), (0x213E, "γ"),
  (0x213F, "π"), (0x2145, "d"), (0x2183, "ↄ"), (0x2C60, "ⱡ"), (0x2C62, "ɫ"), (0x2C63, "ᵽ"),
  (0x2C64, "ɽ"), (0x2C6D, "ɑ"), (0x2C6E, "ɱ"), (0x2C6F, "ɐ"), (0x2C70, "ɒ"), (0x2C72, "ⱳ"),
  (0x2C75, "ⱶ"), (0x2CF2, "ⳳ"), (0x3371, "hpa"), (0x3373, "au"), (0x3375, "ov"), (0x3380, "pa"),
  (0x3381, "na"), (0x3382, "μa"), (0x3383, "ma"), (0x3384, "ka"), (0x3385, "kb"), (0x3386, "mb"),
  (0x3387, "gb"), (0x338A, "pf"), (0x338B, "nf"), (0x338C, "μf"), (0x3390, "hz"),
  (0x3391, "khz"), (0x3392, "mhz"), (0x3393, "ghz"), (0x3394, "thz"), (0x33A9, "pa"),
  (0x33AA, "kpa"), (0x33AB, "mpa"), (0x33AC, "gpa"), (0x33B4, "pv"), (0x33B5, "nv"),
  (0x33B6, "μv"), (0x33B7, "mv"), (0x33B8, "kv"), (0x33B9, "mv"), (0x33BA, "pw"), (0x33BB, "nw"),
  (0x33BC, "μw"), (0x33BD, "mw"), (0x33BE, "kw"), (0x33BF, "mw"), (0x33C0, "kω"), (0x33C1, "mω"),
  (0x33C3, "bq"), (0x33C6, "c∕kg"), (0x33C7, "co."), (0x33C8, "db"), (0x33C9, "gy"),
  (0x33CB, "hp"), (0x33CD, "kk"), (0x33CE, "km"), (0x33D7, "ph"), (0x33D9, "ppm"),
  (0x33DA, "pr"), (0x33DC, "sv"), (0x33DD, "wb"), (0xA77D, "ᵹ"), (0xA78B, "ꞌ"), (0xA78D, "ɥ"),
  (0xA7AA, "ɦ"), (0xA7AB, "ɜ"), (0xA7AC, "ɡ"), (0xA7AD, "ɬ"), (0xA7AE, "ɪ"), (0xA7B0, "ʞ"),
  (0xA7B1, "ʇ"), (0xA7B2, "ʝ"), (0xA7B3, "ꭓ"), (0xA7C4, "ꞔ"), (0xA7C5, "ʂ"), (0xA7C6, "ᶎ"),
  (0xA7D0, "ꟑ"), (0xA7F5, "ꟶ"), (0xFB00, "ff"), (0xFB01, "fi"), (0xFB02, "fl"), (0xFB03, "ffi"),
  (0xFB04, "ffl"), (0xFB05, "st"), (0xFB06, "st"), (0xFB13, "մն"), (0xFB14, "մե"),
  (0xFB15, "մի"), (0xFB16, "վն"), (0xFB17, "մխ"), (0x10595, "𐖼"), (0x1D49F, "d"), (0x1D4A2, "g"),
  (0x1D546, "o"), (0x1D6B9, "θ"), (0x1D6D3, "σ"), (0x1D6F3, "θ"), (0x1D70D, "σ"), (0x1D72D, "θ"),
  (0x1D747, "σ"), (0x1D767, "θ"), (0x1D781, "σ"), (0x1D7A1, "θ"), (0x1D7BB, "σ")]

def inRun? (c : CodePoint) (run : Nat × Nat × Nat × Nat) : Option CodePoint :=
  let (first, last, step, image) := run
  if first ≤ c.value ∧ c.value ≤ last ∧ (c.value - first) % step = 0 then
    some (.ofNat (image + (c.value - first)))
  else none

def mapped (c : CodePoint) : Text :=
  if c.inRanges ignored then []
  else
    match letterRuns.findSome? (inRun? c) with
    | some letter => [letter]
    | none => ((letters.lookup c.value).map Text.ofString).getD [c]

end ProofKey.Nameprep
