import ProofKey.Proofs.CodeValue.RoundTrip
import ProofKey.Proofs.TokenEndpoint.Exchange

/-! # What the store sees of a token request

The endpoint hands on one code value, and the store splits it again. The store finds
the code and the verifier that the client sent, so that a verifier which it gets to
see has been checked. The exception is a code with a space that comes without a
verifier: it is handed on as it is, and the store takes what stands behind its first
space for a verifier.
-/

namespace ProofKey.CodeStore

open TokenEndpoint

variable {p merged : Parameters} {code : Text}

theorem eq_of_burned (body : Parameters → Parameters → Mapping Json) {s : CodeStore}
    {value other : Text} (joined : CodeValue.merge p = .ok merged)
    (carried : merged.value? Parameters.codeName = some value)
    (before : s.outstanding.contains other = true)
    (gone : (exchange (redeeming body) p s).2.outstanding.contains other = false) :
    (CodeValue.decode value).1 = other := by
  rw [(exchange_redeeming body s joined carried).2, Mapping.contains, get?_consume] at gone
  by_contra different
  rw [if_neg different] at gone
  simp [Mapping.contains, gone] at before

/-- The handler hands on the code of a request, joined to the verifier if one was sent. If one
was sent, or the code has no space, the store reads back just these two, any verifier it sees is
well-formed, and no code but that of the request can be burned. -/
theorem store_sees_request (coded : p.value? Parameters.codeName = some code)
    (joined : CodeValue.merge p = .ok merged) :
    let sent := p.value? Parameters.verifierName
    ∃ value, merged.value? Parameters.codeName = some value ∧
      (sent = none → value = code) ∧
      (sent ≠ none ∨ CodeValue.separator ∉ code →
        CodeValue.decode value = (code, sent) ∧
        (∀ verifier, (CodeValue.decode value).2 = some verifier →
          Grammar.wellFormed verifier = true) ∧
        ∀ (body : Parameters → Parameters → Mapping Json) (s : CodeStore) (other : Text),
          s.outstanding.contains other = true →
          (exchange (redeeming body) p s).2.outstanding.contains other = false →
          other = code) := by
  intro sent
  obtain ⟨value, encoded, carried⟩ := CodeValue.encode_of_joined coded joined
  obtain ⟨whole, fine⟩ := CodeValue.encode_eq_ok_iff.mp encoded
  refine ⟨value, carried, ?unsent, ?seen⟩
  case unsent =>
    intro unsent
    exact whole.trans (congrArg (CodeValue.written code) unsent)
  case seen =>
    intro apart
    have clean : CodeValue.separator ∉ code := by
      rcases fine with unsent | ⟨_, _, clean, _⟩
      · exact apart.resolve_left fun given => given unsent
      · exact clean
    have parts : CodeValue.decode value = (code, sent) :=
      CodeValue.decode_eq_iff.mpr ⟨clean, whole⟩
    refine ⟨parts, ?checked, ?burned⟩
    case checked =>
      intro verifier seen
      rw [parts] at seen
      rcases fine with unsent | ⟨checked, given, _, wf⟩
      · exact absurd (unsent.symm.trans seen) (by simp)
      · obtain rfl : checked = verifier := Option.some.inj (given.symm.trans seen)
        exact wf
    case burned =>
      intro body s other before gone
      have burned := eq_of_burned body joined carried before gone
      rw [parts] at burned
      exact burned.symm

/-- The example of RFC 7636: the code reaches the store as it was sent, with its verifier. -/
theorem store_sees_request_sample :
    let p : Parameters := Mapping.ofList [(Parameters.codeName, some "code"),
      (Parameters.verifierName, some Challenge.sampleVerifier)]
    ∃ merged value, CodeValue.merge p = .ok merged ∧
      merged.value? Parameters.codeName = some value ∧
      CodeValue.decode value = (Text.ofString "code", some Challenge.sampleVerifier) := by
  intro p
  have coded : p.value? Parameters.codeName = some (Text.ofString "code") := rfl
  have sent : p.value? Parameters.verifierName = some Challenge.sampleVerifier := rfl
  have clean : CodeValue.separator ∉ Text.ofString "code" := by decide
  have wf : Grammar.wellFormed Challenge.sampleVerifier = true := by decide +kernel
  cases joined : CodeValue.merge p with
  | error error =>
      obtain ⟨verifier, given, spaced | malformed⟩ :=
        (CodeValue.unjoined_iff coded).mp ⟨error, joined⟩
      · exact absurd spaced clean
      · obtain rfl : Challenge.sampleVerifier = verifier := Option.some.inj (sent.symm.trans given)
        simp [wf] at malformed
  | ok merged =>
      obtain ⟨value, carried, _, seen⟩ := store_sees_request coded joined
      exact ⟨merged, value, rfl, carried, (seen (.inr clean)).1⟩

/-- A code with a space comes without a verifier. The store sees another code than was sent, and
a verifier that nobody checked, and that code is burned. -/
theorem spaced_code_hides_verifier :
    let p : Parameters := Mapping.ofList [(Parameters.codeName, some "code short")]
    let bound : Parameters := Mapping.ofList [
      (Parameters.challengeName, some Challenge.sampleChallenge),
      (Parameters.methodName, some Transform.s256Id)]
    let s := ((empty (Registry.initial.register ⟨.s256, 1⟩) fun _ => .ok "code").issue bound).2
    ∃ merged value, p.value? Parameters.codeName = some (Text.ofString "code short") ∧
      p.get? Parameters.verifierName = none ∧
      CodeValue.merge p = .ok merged ∧ merged.value? Parameters.codeName = some value ∧
      CodeValue.decode value ≠ (Text.ofString "code short", p.value? Parameters.verifierName) ∧
      (CodeValue.decode value).2 = some (Text.ofString "short") ∧
      Grammar.wellFormed "short" = false ∧
      s.outstanding.contains "code" = true ∧
      (exchange grant p s).2.outstanding.contains "code" = false := by
  intro p bound s
  exact ⟨p, "code short", rfl, rfl, rfl, rfl, by decide, rfl, rfl, rfl, rfl⟩

end ProofKey.CodeStore
