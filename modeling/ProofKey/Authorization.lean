import ProofKey.Binding
import ProofKey.Registry

/-!
# PKCE at the authorization step

A malformed challenge or a method without a transform is refused here (RFC 7636, section 4.4), so
that no code is issued which nobody could redeem.
-/

namespace ProofKey.Registry

/-- Checks the challenge and the method of an authorization request: the binding to keep with the
code, or none if the request does not use PKCE. A malformed challenge is reported before an
unsupported method. -/
def authorize (r : Registry) (p : Parameters) : Report (Option Binding) :=
  match p.challenge? with
  | none => .ok none
  | some challenge =>
      if Grammar.wellFormed challenge then
        let methodId := p.methodId
        if r.supports methodId then
          ⟨.ok (some ⟨challenge, methodId⟩), [.challengeAccepted methodId]⟩
        else .refuse (.methodNotOffered methodId r.sortedIds)
      else .refuse .malformedChallenge

end ProofKey.Registry
