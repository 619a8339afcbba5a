import ProofKey.Authorization
import ProofKey.Base64Url
import ProofKey.CodeValue
import ProofKey.Evaluation

/-!
# The store of authorization codes

A code is issued for an authorization request and redeemed once. The store keeps the parameters
of the request under the code; redeeming takes the code out first and evaluates PKCE afterwards,
so a failed attempt burns the code. Each operation gives its report and the store after it.
-/

namespace ProofKey

/-- The outstanding codes with the parameters that they were issued for, and where fresh codes
come from: `source` answers the draw of each number, `drawn` counts the draws so far. -/
structure CodeStore where
  registry : Registry
  source : Nat → Except Fault Text
  drawn : Nat
  outstanding : Mapping Parameters

namespace CodeStore

def empty (registry : Registry) (source : Nat → Except Fault Text) : CodeStore :=
  ⟨registry, source, 0, Mapping.empty⟩

def codeOfBytes (bytes : List UInt8) : Text := Base64Url.encode bytes

def size (s : CodeStore) : Nat := s.outstanding.size

/-- Stores parameters under a fresh code, if the draw gave one that may be used: a code with a
space could not be told from its verifier, and an outstanding code is taken. -/
def place (s : CodeStore) (p : Parameters) (fresh : Except Fault Text) :
    Report Text × CodeStore :=
  match fresh with
  | .error fault => (.fail fault, s)
  | .ok code =>
      if CodeValue.separator ∈ code then (.fail .codeWithSpace, s)
      else if s.outstanding.contains code then (.fail .duplicateCode, s)
      else
        let issued := { s with outstanding := s.outstanding.insert code p }
        (⟨.ok code, [.codeIssued issued.size]⟩, issued)

/-- Issues a given fresh code for an authorization request, which is checked first. -/
def issueFresh (s : CodeStore) (p : Parameters) (fresh : Except Fault Text) :
    Report Text × CodeStore :=
  match s.registry.authorize p with
  | ⟨.error failure, log⟩ => (⟨.error failure, log⟩, s)
  | ⟨.ok _, log⟩ =>
      let (report, next) := s.place p fresh
      (report.after log, next)

/-- Issues a code for an authorization request. A code is drawn only for a request that passes
the check; a code that is then refused is not drawn again. -/
def issue (s : CodeStore) (p : Parameters) : Report Text × CodeStore :=
  match (s.registry.authorize p).result with
  | .error _ => s.issueFresh p (s.source s.drawn)
  | .ok _ => { s with drawn := s.drawn + 1 }.issueFresh p (s.source s.drawn)

/-- Evaluates PKCE for the parameters of a code. A verifier that does not match is answered as an
unknown code is. -/
def settle (r : Registry) (p : Parameters) (verifier : Option Text) : Report Parameters :=
  (r.evaluate p verifier).bind fun outcome =>
    if outcome.grantAllowed then .ok p
    else ⟨.error (.refused .invalidCode), [.codeRejected]⟩

/-- Redeems a code value: the parameters that its code was issued for. -/
def consume (s : CodeStore) (value : Text) : Report Parameters × CodeStore :=
  let (code, verifier) := CodeValue.decode value
  match s.outstanding.get? code with
  | none => (⟨.error (.refused .invalidCode), [.unknownCode]⟩, s)
  | some p =>
      (settle s.registry p verifier, { s with outstanding := s.outstanding.erase code })

/-- Registers an instance of a transform with the registry of the store. -/
def register (s : CodeStore) (registration : Registration) : Report Unit × CodeStore :=
  (⟨.ok (), [s.registry.registerEvent registration]⟩,
    { s with registry := s.registry.register registration })

end CodeStore

end ProofKey
