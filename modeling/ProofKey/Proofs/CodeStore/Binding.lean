import ProofKey.Proofs.CodeStore.History

/-! # Redeemed codes are bound

However codes are issued, presented and mixed with registrations of transforms,
a code goes through only with what its authorization request bound it to. A
request with a challenge needs a verifier that the transform now registered
under its method accepts; a request without one must come without a verifier.
-/

namespace ProofKey

namespace Registry

variable {r : Registry} {p : Parameters} {verifier : Option Text} {challenge : Text}

theorem Admits.verifies (admitted : r.Admits p verifier)
    (bound : p.value? Parameters.challengeName = some challenge) (used : challenge ≠ []) :
    ∃ presented, verifier = some presented ∧ r.Verifies p challenge presented := by
  rcases admitted with ⟨held, presented, sent, verified⟩ | absent
  · have same : held = challenge := Option.some.inj (verified.bound.symm.trans bound)
    exact ⟨presented, sent, same ▸ verified⟩
  · rcases absent.unbound with missing | empty
    · simp [missing] at bound
    · exact absurd (Option.some.inj (empty.symm.trans bound)).symm used

theorem Verifies.accepts {presented : Text} {transform : Transform}
    (verified : r.Verifies p challenge presented) (held : r.get? p.methodId = some transform) :
    transform.Accepts presented challenge := by
  obtain ⟨registered, found, accepted⟩ := verified.accepted
  have same : registered = transform := Option.some.inj (found.symm.trans held)
  exact same ▸ accepted

end Registry

namespace CodeStore

open Registry

/-- Whenever a run lets a code value through, its code was last issued for the answered
parameters, and they and the verifier fulfil PKCE under the registry of that moment. A challenge
is never met without a verifier; under the built-in transforms the verifier is the challenge, or
the challenge is derived from it. -/
theorem redeemed_code_is_bound (r : Registry) (source : Nat → Except Fault Text)
    (calls : List Call) {value : Text} {p : Parameters}
    (redeemed : (((empty r source).after calls).consume value).1.result = .ok p) :
    let held := ((empty r source).after calls).registry
    let verifier := (CodeValue.decode value).2
    IssuedLast ((empty r source).history calls) (CodeValue.decode value).1 p ∧
    ((∃ challenge presented, verifier = some presented ∧ held.Verifies p challenge presented) ∨
      WithoutPkce p verifier) ∧
    ∀ challenge, p.value? Parameters.challengeName = some challenge → challenge ≠ [] →
      ∃ presented, verifier = some presented ∧ presented ≠ [] ∧
        (held.get? p.methodId = some .plain → presented = challenge) ∧
        (held.get? p.methodId = some .s256 → Challenge.s256 presented = .ok challenge) := by
  intro held verifier
  obtain ⟨known, admitted⟩ := consume_eq_ok_iff.mp redeemed
  refine ⟨(get?_after_iff r source calls).mp known, admitted, ?_⟩
  intro challenge bound used
  obtain ⟨presented, sent, verified⟩ := admitted.verifies bound used
  refine ⟨presented, sent, ne_nil_of_wellFormed verified.verifierWellFormed, ?plain, ?s256⟩
  case plain =>
    intro builtIn
    exact Transform.plain_accepts_iff.mp (verified.accepts builtIn)
  case s256 =>
    intro builtIn
    exact Transform.s256_accepts_iff.mp (verified.accepts builtIn)

/-- A code issued after S256 was registered, and redeemed with the verifier of the challenge. -/
theorem redeemed_code_is_bound_sample :
    let p : Parameters := Mapping.ofList [
      (Parameters.challengeName, some Challenge.sampleChallenge),
      (Parameters.methodName, some Transform.s256Id)]
    let start := empty Registry.initial fun _ => .ok "code"
    let calls := [Call.register ⟨.s256, 1⟩, .issue p]
    let value : Text := "code " ++ Challenge.sampleVerifier
    ((start.after calls).consume value).1.result = .ok p ∧
      IssuedLast (start.history calls) "code" p ∧
      ∃ presented, (CodeValue.decode value).2 = some presented ∧
        Challenge.s256 presented = .ok Challenge.sampleChallenge := by
  intro p start calls value
  have split : CodeValue.decode value = (Text.ofString "code", some Challenge.sampleVerifier) := by
    decide +kernel
  have bound : p.value? Parameters.challengeName = some Challenge.sampleChallenge := by
    decide +kernel
  have held : (start.after calls).registry.get? p.methodId = some .s256 := rfl
  have redeemed : ((start.after calls).consume value).1.result = .ok p := by
    refine consume_eq_ok_iff.mpr ⟨by decide +kernel, ?_⟩
    rw [split]
    exact .inl ⟨_, _, rfl, verifies_sample held bound⟩
  obtain ⟨issuedLast, _, met⟩ := redeemed_code_is_bound _ _ calls redeemed
  obtain ⟨presented, sent, _, _, derived⟩ := met _ bound (by decide +kernel)
  rw [split] at issuedLast
  exact ⟨redeemed, issuedLast, presented, sent, derived held⟩

end CodeStore

end ProofKey
