import ProofKey.Text

/-!
# Grids of characters

The standards of East Asia number their characters by row and cell, and leave the bytes to other
rules. A grid is such a table: cells count from one, rows from where the grid starts.
-/

namespace ProofKey

/-- Rows of characters. A cell without a character has U+FFFD; at the end of a row such cells are
left out. -/
structure Grid where
  start : Nat
  rows : List String
  deriving DecidableEq, Repr

namespace Grid

/-- Whether a place has a character. -/
def isCharacter (c : CodePoint) : Bool := c != CodePoint.replacement

/-- The character of a row and a cell. -/
def get? (g : Grid) (row cell : Nat) : Option CodePoint :=
  if row < g.start ∨ cell = 0 then none
  else
    ((g.rows[row - g.start]?).bind fun cells => (Text.ofString cells)[cell - 1]?).filter
      isCharacter

/-- The characters of all rows, one after the other. -/
def characters (g : Grid) : Text := (g.rows.flatMap Text.ofString).filter isCharacter

end Grid

end ProofKey
