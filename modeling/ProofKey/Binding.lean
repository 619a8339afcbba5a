import ProofKey.Parameters
import ProofKey.Transform

/-!
# Bindings and outcomes

A binding is what the authorization step keeps of PKCE: the challenge and the method that will
check it. An outcome is what the token step makes of it.
-/

namespace ProofKey

/-- The method of a request that names none (RFC 7636). -/
def defaultMethodId : Text := Transform.plainId

def Parameters.methodId (p : Parameters) : Text := p.method?.getD defaultMethodId

structure Binding where
  challenge : Text
  methodId : Text := defaultMethodId
  deriving DecidableEq, Repr

def Binding.parameters (b : Binding) : Parameters :=
  Mapping.ofList [(Parameters.challengeName, some b.challenge),
    (Parameters.methodName, some b.methodId)]

/-- How a redemption went that had no malformed part. -/
inductive Outcome where
  /-- Neither a challenge nor a verifier took part. -/
  | noPkce
  /-- The verifier was checked against the challenge. -/
  | verified (matched : Bool)
  deriving DecidableEq, Repr

def Outcome.grantAllowed : Outcome → Bool
  | noPkce => true
  | verified matched => matched

end ProofKey
