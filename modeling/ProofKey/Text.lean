/-!
# Text as a sequence of code points

Values of an OAuth request arrive from clients that may send any code point, a lone
surrogate among them. `Text` therefore counts and compares code points and not Unicode scalar
values: two surrogates in a row stay two code points, and are not the character that UTF-16
would make of them. Texts are ordered lexicographically by code point.
-/

namespace ProofKey

/-- A Unicode code point; surrogates are code points like any other. -/
@[ext]
structure CodePoint where
  value : Nat
  value_le : value ≤ 0x10FFFF
  deriving DecidableEq

namespace CodePoint

instance : Repr CodePoint := ⟨fun c _ => repr c.value⟩

def ofChar (c : Char) : CodePoint :=
  ⟨c.toNat, by
    have valid : c.toNat < 0xD800 ∨ 0xDFFF < c.toNat ∧ c.toNat < 0x110000 := c.valid
    omega⟩

instance : Coe Char CodePoint := ⟨ofChar⟩

instance : Inhabited CodePoint := ⟨'\x00'⟩

/-- U+FFFD, which stands for what could not be read. -/
def replacement : CodePoint := ⟨0xFFFD, by decide⟩

/-- The code point of a number; a number above U+10FFFF has none and gives U+FFFD. -/
def ofNat (n : Nat) : CodePoint :=
  if h : n ≤ 0x10FFFF then ⟨n, h⟩ else replacement

instance : LT CodePoint := ⟨fun a b => a.value < b.value⟩

instance (a b : CodePoint) : Decidable (a < b) := inferInstanceAs (Decidable (a.value < b.value))

instance : LE CodePoint := ⟨fun a b => a.value ≤ b.value⟩

instance : Std.LawfulOrderLT CodePoint := ⟨fun _ _ => Nat.lt_iff_le_and_not_ge⟩

instance : Std.IsLinearOrder CodePoint where
  le_refl a := Nat.le_refl a.value
  le_trans _ _ _ := Nat.le_trans
  le_antisymm _ _ below above := CodePoint.ext (Nat.le_antisymm below above)
  le_total a b := Nat.le_total a.value b.value

/-- `c` lies in the range of characters from `first` to `last`, both included. -/
def between (first last : Char) (c : CodePoint) : Bool :=
  first.toNat ≤ c.value && c.value ≤ last.toNat

/-- `c` lies in one of some ranges, which are given by their first and last code point. -/
def inRanges (ranges : List (Nat × Nat)) (c : CodePoint) : Bool :=
  ranges.any fun (first, last) => first ≤ c.value && c.value ≤ last

def isAscii (c : CodePoint) : Bool := c.value < 0x80

/-- Surrogates are the code points that are no Unicode scalar value. -/
def isSurrogate (c : CodePoint) : Bool := 0xD800 ≤ c.value && c.value ≤ 0xDFFF

def isLetter (c : CodePoint) : Bool := between 'a' 'z' c || between 'A' 'Z' c

/-- A decimal digit of ASCII; digits of other scripts do not count. -/
def isDigit (c : CodePoint) : Bool := between '0' '9' c

def isHexDigit (c : CodePoint) : Bool :=
  between '0' '9' c || between 'a' 'f' c || between 'A' 'F' c

/-- The capital letters of ASCII go to small letters, all else stays. -/
def toLower (c : CodePoint) : CodePoint :=
  if between 'A' 'Z' c then ofNat (c.value + 32) else c

/-- The small letters of ASCII go to capital letters, all else stays. -/
def toUpper (c : CodePoint) : CodePoint :=
  if between 'a' 'z' c then ofNat (c.value - 32) else c

theorem ofNat_value (c : CodePoint) : ofNat c.value = c := by
  simp [ofNat, c.value_le]

theorem value_ofNat {n : Nat} (h : n ≤ 0x10FFFF) : (ofNat n).value = n := by
  simp [ofNat, h]

theorem value_ofChar (c : Char) : (ofChar c).value = c.toNat := rfl

end CodePoint

/-- A sequence of code points. -/
abbrev Text := List CodePoint

namespace Text

def ofString (s : String) : Text := s.toList.map .ofChar

instance : Coe String Text := ⟨ofString⟩

/-- The string of a text; a surrogate, which no string can hold, becomes U+FFFD. -/
def toString (t : Text) : String :=
  String.ofList (t.map fun c => if c.isSurrogate then '\uFFFD' else Char.ofNat c.value)

def ofNat (n : Nat) : Text := Text.ofString n.repr

end Text

end ProofKey
