import ProofKey.Text

/-!
# Code pages

A code page is a character set of one byte per character. Its lower bytes are their own code
points, in most code pages all of ASCII among them; a table gives the characters of the upper
ones, up to 0xFF. A byte that has no character makes bytes unreadable in the code page.
-/

namespace ProofKey

/-- A character set of one byte per character, the names that it goes by, and its upper characters
in the order of their bytes. A byte without a character has U+FFFD there. -/
structure CodePage where
  name : Text
  aliases : List Text
  upper : Text
  deriving DecidableEq, Repr

namespace CodePage

/-- The least byte of the upper ones. -/
def start (page : CodePage) : Nat := 0x100 - page.upper.length

/-- The character of a byte. -/
def decodeOne? (page : CodePage) (byte : UInt8) : Option CodePoint :=
  if byte.toNat < page.start then some (.ofNat byte.toNat)
  else (page.upper[byte.toNat - page.start]?).filter fun c => c != CodePoint.replacement

/-- The text of the bytes. -/
def decode? (page : CodePage) (bytes : List UInt8) : Option Text := bytes.mapM page.decodeOne?

end CodePage

end ProofKey
