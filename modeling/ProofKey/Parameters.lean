import ProofKey.Mapping

/-!
# Request parameters

The parameters of an authorization request or a token request, by name. A parameter may be there
with no value at all. PKCE takes a parameter that is missing, has no value, or has an empty value
for absent.
-/

namespace ProofKey

/-- Request parameters; `none` is a parameter without a value. -/
abbrev Parameters := Mapping (Option Text)

namespace Parameters

def challengeName : Text := "code_challenge"

def methodName : Text := "code_challenge_method"

def verifierName : Text := "code_verifier"

def codeName : Text := "code"

def value? (p : Parameters) (name : Text) : Option Text := (p.get? name).join

end Parameters

/-- An empty value counts as none. -/
def present? : Option Text → Option Text
  | none => none
  | some [] => none
  | some (c :: rest) => some (c :: rest)

def Parameters.challenge? (p : Parameters) : Option Text := present? (value? p challengeName)

/-- The method that a request names, unless it names none. -/
def Parameters.method? (p : Parameters) : Option Text := present? (value? p methodName)

theorem present?_eq_some_iff {v : Option Text} {t : Text} :
    present? v = some t ↔ v = some t ∧ t ≠ [] := by
  match v with
  | none => simp [present?]
  | some [] => cases t <;> simp [present?]
  | some (c :: rest) => cases t <;> simp [present?]

end ProofKey
