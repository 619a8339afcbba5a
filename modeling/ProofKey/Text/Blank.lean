import ProofKey.Text

/-!
# Blank space

The white space of settings and environment files is Unicode's, together with the four
information separators U+001C to U+001F. The zero-width space U+200B and the byte order mark
U+FEFF are not blank.
-/

namespace ProofKey.Text

/-- White space of any script, line ends included. -/
def isBlank (c : CodePoint) : Bool :=
  let n := c.value
  (0x09 ≤ n && n ≤ 0x0D) || (0x1C ≤ n && n ≤ 0x20) || n == 0x85 || n == 0xA0 || n == 0x1680 ||
  (0x2000 ≤ n && n ≤ 0x200A) || n == 0x2028 || n == 0x2029 || n == 0x202F || n == 0x205F ||
  n == 0x3000

def stripEnd (t : Text) : Text := (t.reverse.dropWhile isBlank).reverse

def strip (t : Text) : Text := stripEnd (t.dropWhile isBlank)

end ProofKey.Text
