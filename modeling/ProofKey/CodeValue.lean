import ProofKey.Error
import ProofKey.Parameters
import ProofKey.Text.Pieces

/-!
# The code value

A code store that takes one opaque text at redemption has no place for a verifier. The verifier
therefore travels behind the code, after one space. A code never holds a space, so the first
space of a code value ends its code.
-/

namespace ProofKey.CodeValue

/-- What stands between a code and its verifier. -/
def separator : CodePoint := ' '

/-- Joins a verifier to a code. Without a verifier the code is passed on as it is; with one, the
code must be free of the separator and the verifier well-formed. -/
def encode (code : Text) : Option Text → Except OAuthError Text
  | none => .ok code
  | some verifier =>
      if separator ∈ code then .error .codeWithSpace
      else if verifier = [] then .error .emptyVerifier
      else if Grammar.wellFormed verifier then .ok (code ++ separator :: verifier)
      else .error .malformedVerifier

/-- Splits a code value into the code and the verifier, if it has one. -/
def decode (value : Text) : Text × Option Text := value.cut separator

/-- Joins the verifier of a token request to its code, if the request has both. A parameter
without a value counts as there, and nothing is joined to a code without a value. -/
def merge (p : Parameters) : Except OAuthError Parameters :=
  match p.get? Parameters.codeName, p.get? Parameters.verifierName with
  | some (some code), some verifier =>
      (encode code verifier).map fun value => p.insert Parameters.codeName (some value)
  | _, _ => .ok p

end ProofKey.CodeValue
