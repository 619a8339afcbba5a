import ProofKey.Binding
import ProofKey.Registry

/-!
# PKCE at the token step

The stored parameters are held against the verifier of the token request (RFC 7636, section 4.6).
Input that is missing, malformed or unsupported is refused; a well-formed verifier that does not
match is an outcome of its own, not an error.
-/

namespace ProofKey.Registry

/-- Checks a challenge and a verifier that are both there: first the method, then the challenge,
then the verifier, and last the transform's verdict. -/
def check (r : Registry) (methodId challenge verifier : Text) : Report Outcome :=
  match r.get? methodId with
  | none => .refuse (.methodNotRegistered methodId)
  | some transform =>
      if ¬ Grammar.wellFormed challenge then .refuse .malformedChallenge
      else if ¬ Grammar.wellFormed verifier then .refuse .malformedVerifier
      else (transform.verify (some verifier) (some challenge)).bind fun matched =>
        ⟨.ok (.verified matched), [.verdict methodId matched]⟩

/-- Evaluates the parameters of an authorization request against the verifier of the token
request. -/
def evaluate (r : Registry) (p : Parameters) (verifier : Option Text) : Report Outcome :=
  match p.challenge?, present? verifier with
  | none, none => ⟨.ok .noPkce, [.noPkce]⟩
  | some _, none => .refuse .missingVerifier
  | none, some _ => .refuse .missingChallenge
  | some challenge, some presented => r.check p.methodId challenge presented

/-- Evaluates a binding, or the lack of one, against the verifier of the token request. -/
def evaluateBinding (r : Registry) (binding : Option Binding) (verifier : Option Text) :
    Report Outcome :=
  r.evaluate ((binding.map Binding.parameters).getD Mapping.empty) verifier

end ProofKey.Registry
