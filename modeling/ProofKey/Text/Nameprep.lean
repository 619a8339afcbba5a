import ProofKey.Text.Nameprep.Direction
import ProofKey.Text.Nameprep.Mapping
import ProofKey.Text.Nfkc

/-!
# Preparing names

Names that users hold for the same one become the same text (RFC 3491): letters become small ones,
what nobody sees is left out, and the text takes its normal form. Some characters are refused, and
names whose letters run in both directions.
-/

namespace ProofKey.Nameprep

inductive Fault where
  /-- A character must not stand in a name. -/
  | prohibited (c : CodePoint)
  /-- Some letters run to the left, others to the right. -/
  | mixedDirections
  /-- The letters run to the left, but what begins or ends the name has no direction. -/
  | openEnd
  deriving DecidableEq, Repr

/-- First and last code point of each range that is refused: blanks and controls, unless they are
ASCII, code points without a meaning that all agree on, and those that change how others look
(tables C.1.2, C.2.2 and C.3 to C.9 of RFC 3454). -/
def prohibitedRanges : List (Nat × Nat) := [
  (0x80, 0xA0), (0x340, 0x341), (0x6DD, 0x6DD), (0x70F, 0x70F), (0x1680, 0x1680),
  (0x180E, 0x180E), (0x2000, 0x200F), (0x2028, 0x202F), (0x205F, 0x2063), (0x206A, 0x206F),
  (0x2FF0, 0x2FFB), (0x3000, 0x3000), (0xD800, 0xF8FF), (0xFDD0, 0xFDEF), (0xFEFF, 0xFEFF),
  (0xFFF9, 0xFFFF), (0x1D173, 0x1D17A), (0x1FFFE, 0x1FFFF), (0x2FFFE, 0x2FFFF),
  (0x3FFFE, 0x3FFFF), (0x4FFFE, 0x4FFFF), (0x5FFFE, 0x5FFFF), (0x6FFFE, 0x6FFFF),
  (0x7FFFE, 0x7FFFF), (0x8FFFE, 0x8FFFF), (0x9FFFE, 0x9FFFF), (0xAFFFE, 0xAFFFF),
  (0xBFFFE, 0xBFFFF), (0xCFFFE, 0xCFFFF), (0xDFFFE, 0xDFFFF), (0xE0001, 0xE0001),
  (0xE0020, 0xE007F), (0xEFFFE, 0x10FFFF)]

def directionFault? (t : Text) : Option Fault :=
  if !t.any isLeftward then none
  else if t.any isRightward then some .mixedDirections
  else if (t.head?.map isLeftward).getD false ∧ (t.getLast?.map isLeftward).getD false then none
  else some .openEnd

def prepare (name : Text) : Except Fault Text :=
  let t := Nfkc.normalize (name.flatMap mapped)
  match t.find? fun c => c.inRanges prohibitedRanges, directionFault? t with
  | some c, _ => .error (.prohibited c)
  | none, some fault => .error fault
  | none, none => .ok t

end ProofKey.Nameprep
