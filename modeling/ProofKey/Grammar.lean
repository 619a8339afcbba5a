import ProofKey.Text

/-!
# Grammar of verifiers and challenges

RFC 7636 gives code verifiers and code challenges one grammar: 43 to 128 characters, all of them
unreserved. Only ASCII letters and digits count.
-/

namespace ProofKey.Grammar

def minLength : Nat := 43

def maxLength : Nat := 128

/-- Letters, digits, and the marks `-`, `.`, `_` and `~`. -/
def isUnreserved (c : CodePoint) : Bool :=
  c.isLetter || c.isDigit || c = CodePoint.ofChar '-' || c = CodePoint.ofChar '.' ||
    c = CodePoint.ofChar '_' || c = CodePoint.ofChar '~'

/-- Whether a text is a well-formed verifier or challenge. -/
def wellFormed (t : Text) : Bool :=
  minLength ≤ t.length && t.length ≤ maxLength && t.all isUnreserved

/-- The rule as error descriptions state it. -/
def rule : Text :=
  "length must be between " ++ Text.ofNat minLength ++ " and " ++ Text.ofNat maxLength ++
    " and use only [A-Z],[a-z],[0-9],_,.,-,~ characters"

theorem wellFormed_iff {t : Text} :
    wellFormed t = true ↔
      minLength ≤ t.length ∧ t.length ≤ maxLength ∧ ∀ c ∈ t, isUnreserved c = true := by
  simp [wellFormed, and_assoc]

theorem isAscii_of_isUnreserved {c : CodePoint} (h : isUnreserved c = true) :
    c.isAscii = true := by
  simp only [isUnreserved, Bool.or_eq_true, decide_eq_true_eq] at h
  rcases h with ((((h | h) | rfl) | rfl) | rfl) | rfl
  · simp only [CodePoint.isLetter, CodePoint.between, Bool.or_eq_true, Bool.and_eq_true,
      decide_eq_true_eq] at h
    simp only [CodePoint.isAscii, decide_eq_true_eq]
    have small : 'z'.toNat = 122 := rfl
    have capital : 'Z'.toNat = 90 := rfl
    omega
  · simp only [CodePoint.isDigit, CodePoint.between, Bool.and_eq_true, decide_eq_true_eq] at h
    simp only [CodePoint.isAscii, decide_eq_true_eq]
    have nine : '9'.toNat = 57 := rfl
    omega
  all_goals decide

theorem isUnreserved_space : isUnreserved ' ' = false := by decide

end ProofKey.Grammar
