import ProofKey.Proofs.Authorization
import ProofKey.Proofs.CodeStore.Run
import ProofKey.Proofs.CodeValue

/-! # Honest clients are served

A client that derives its challenge from a well-formed verifier gets a code, and
as long as nobody presents that code, the verifier redeems it. Other traffic
cannot get in the way: it may issue, redeem and burn any other codes.
-/

namespace ProofKey

/-- An authorization request that fits a verifier: with the S256 challenge derived from it, or
with the verifier itself as challenge under the method that needs no name. -/
inductive HonestRequest (verifier derived : Text) (p : Parameters) : Prop where
  | s256 (challenge : p.value? Parameters.challengeName = some derived)
      (method : p.value? Parameters.methodName = some Transform.s256Id)
  | plain (challenge : p.value? Parameters.challengeName = some verifier)
      (method : p.value? Parameters.methodName = none ∨ p.value? Parameters.methodName = some [] ∨
        p.value? Parameters.methodName = some Transform.plainId)

namespace HonestRequest

variable {r : Registry} {verifier derived : Text} {p : Parameters}

theorem verifies (plainHeld : r.get? Transform.plainId = some .plain)
    (s256Held : r.get? Transform.s256Id = some .s256)
    (wf : Grammar.wellFormed verifier = true) (derivation : Challenge.s256 verifier = .ok derived)
    (honest : HonestRequest verifier derived p) :
    ∃ challenge, r.Verifies p challenge verifier := by
  cases honest with
  | s256 challenge method =>
      have selected : p.methodId = Transform.s256Id :=
        Parameters.methodId_of_named method (by decide)
      exact ⟨derived, challenge, Challenge.wellFormed_of_s256 derivation, wf, .s256,
        by rw [selected, s256Held], Transform.s256_accepts_iff.mpr derivation⟩
  | plain challenge method =>
      have selected : p.methodId = Transform.plainId := by
        rcases method with missing | empty | named
        · exact Parameters.methodId_of_unnamed (.inl missing)
        · exact Parameters.methodId_of_unnamed (.inr empty)
        · exact Parameters.methodId_of_named named (by decide)
      exact ⟨verifier, challenge, wf, wf, .plain,
        by rw [selected, plainHeld], Transform.plain_accepts_iff.mpr rfl⟩

end HonestRequest

theorem Registry.Verifies.authorized {r : Registry} {p : Parameters} {challenge presented : Text}
    (verified : r.Verifies p challenge presented) :
    ∃ binding, (r.authorize p).result = .ok binding := by
  obtain ⟨transform, found, _⟩ := verified.accepted
  have bound : p.challenge? = some challenge := present?_eq_some_iff.mpr
    ⟨verified.bound, ne_nil_of_wellFormed verified.challengeWellFormed⟩
  have supported : r.supports p.methodId = true := by
    rw [supports_eq_isSome, found]
    rfl
  exact ⟨_, authorize_eq_ok_iff.mpr
    (.inr ⟨challenge, bound, verified.challengeWellFormed, supported, rfl⟩)⟩

namespace CodeStore

variable {s : CodeStore}

/-- Every honest request is issued the code that is drawn for it, if that code may be used. Until
the code is presented, and whatever else is issued and redeemed, the verifier joined to it redeems
exactly the request. -/
theorem honest_client_served (plainHeld : s.registry.get? Transform.plainId = some .plain)
    (s256Held : s.registry.get? Transform.s256Id = some .s256) {verifier : Text}
    (wf : Grammar.wellFormed verifier = true) :
    ∃ derived, Challenge.s256 verifier = .ok derived ∧
      ∀ p, HonestRequest verifier derived p →
      ∀ code, s.source s.drawn = .ok code → CodeValue.separator ∉ code →
        s.outstanding.get? code = none →
      (s.issue p).1.result = .ok code ∧
      ∀ later, (∀ registration, Call.register registration ∉ later) →
        (∀ value, Call.consume value ∈ later → (CodeValue.decode value).1 ≠ code) →
      ∃ value, CodeValue.encode code (some verifier) = .ok value ∧
        (((s.issue p).2.after later).consume value).1.result = .ok p := by
  obtain ⟨derived, derivation⟩ := Challenge.exists_s256 wf
  refine ⟨derived, derivation, ?_⟩
  intro p honest code drawn clean free
  obtain ⟨challenge, verified⟩ := honest.verifies plainHeld s256Held wf derivation
  have answer : (s.issue p).1.result = .ok code :=
    issue_eq_ok_iff.mpr ⟨verified.authorized, drawn, clean, free⟩
  refine ⟨answer, ?_⟩
  intro later fixed unpresented
  have stored : (s.issue p).2.outstanding.get? code = some p := by
    rw [issue_next_of_ok answer, Mapping.get?_insert, if_pos rfl]
  have kept := get?_after_of_unpresented stored unpresented
  have registry : ((s.issue p).2.after later).registry = s.registry :=
    (registry_after _ fixed).trans (registry_issue s p)
  refine ⟨code ++ CodeValue.separator :: verifier,
    CodeValue.encode_some_eq_ok_iff.mpr ⟨clean, wf, rfl⟩, consume_eq_ok_iff.mpr ?_⟩
  rw [CodeValue.decode_joined clean, registry]
  exact ⟨kept, .inl ⟨challenge, verifier, rfl, verified⟩⟩

/-- An S256 client is served although another code is issued and redeemed before it comes back,
and a wrong code is tried. -/
theorem honest_client_served_sample :
    let s := empty (Registry.initial.register ⟨.s256, 1⟩) fun n => .ok (Text.ofNat n)
    let p : Parameters := Mapping.ofList [
      (Parameters.challengeName, some Challenge.sampleChallenge),
      (Parameters.methodName, some Transform.s256Id)]
    let later : List Call := [.issue Mapping.empty, .consume "1", .consume "00"]
    (s.issue p).1.result = .ok "0" ∧
      ∃ value, CodeValue.encode "0" (some Challenge.sampleVerifier) = .ok value ∧
        (((s.issue p).2.after later).consume value).1.result = .ok p := by
  intro s p later
  have wf : Grammar.wellFormed Challenge.sampleVerifier = true := by decide +kernel
  obtain ⟨derived, derivation, served⟩ := honest_client_served (s := s) rfl rfl wf
  have same : derived = Challenge.sampleChallenge :=
    Except.ok.inj (derivation.symm.trans Challenge.s256_sampleVerifier)
  have honest : HonestRequest Challenge.sampleVerifier derived p :=
    .s256 (by rw [same]; decide +kernel) (by decide +kernel)
  have digit : Text.ofNat 0 = "0" := by decide +kernel
  obtain ⟨answer, redeems⟩ := served p honest "0" (congrArg Except.ok digit) (by decide +kernel) rfl
  refine ⟨answer, redeems later (by simp [later]) ?_⟩
  intro value member
  simp only [later, List.mem_cons, reduceCtorEq, Call.consume.injEq, List.not_mem_nil,
    false_or, or_false] at member
  rcases member with rfl | rfl <;> decide +kernel

end CodeStore

end ProofKey
