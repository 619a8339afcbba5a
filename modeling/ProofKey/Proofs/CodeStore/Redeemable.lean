import ProofKey.Proofs.Agreement
import ProofKey.Proofs.CodeStore.Run

/-! # Issued codes can be redeemed

Authorization is asked once, when a code is issued, and its answer has to last until
the code comes back: codes and transforms come and go in between. It does last,
since registering takes no method away. A redemption is therefore never refused for
the challenge or the method of its code. What can still be wrong is the code, or the
verifier that came with it.
-/

namespace ProofKey.CodeStore

variable {s : CodeStore} {p : Parameters} {value : Text} {failure : Failure}

/-- No code of the store is bound so that nobody could redeem it: authorization would accept the
request of every outstanding code again, and all transforms give verdicts. -/
structure Redeemable (s : CodeStore) : Prop where
  steady : s.registry.Steady
  accepted : ∀ code p, s.outstanding.get? code = some p →
    ∃ binding, (s.registry.authorize p).result = .ok binding

/-- What a redemption can be refused for: its code, where an unknown code and a mismatch are
answered alike, or its verifier. -/
def redemptionErrors : List OAuthError := .invalidCode :: OAuthError.verifierErrors

theorem blameless_of_redemptionErrors {error : OAuthError} (listed : error ∈ redemptionErrors) :
    ¬(Failure.refused error).BlamesBinding ∧ error.kind ≠ .malformedCode ∧
      error.kind ∈ [ErrorKind.invalidGrant, .missingVerifier, .missingChallenge,
        .invalidVerifierSyntax] := by
  rcases List.mem_cons.mp listed with rfl | verifier
  · simp [Failure.BlamesBinding, OAuthError.invalidCode]
  · refine ⟨OAuthError.not_blamesBinding verifier, ?_⟩
    simp only [OAuthError.verifierErrors, List.mem_cons, List.not_mem_nil, or_false] at verifier
    rcases verifier with rfl | rfl | rfl <;> decide

theorem settle_error {r : Registry} (steady : r.Steady) {binding : Option Binding}
    {verifier : Option Text} (accepted : (r.authorize p).result = .ok binding)
    (failed : (settle r p verifier).result = .error failure) :
    ∃ error ∈ redemptionErrors, failure = .refused error := by
  rw [settle_result] at failed
  cases evaluated : (r.evaluate p verifier).result with
  | error own =>
      obtain rfl : own = failure := by simpa [evaluated, Except.bind] using failed
      obtain ⟨error, listed, rfl⟩ | ⟨presented, _, fails⟩ :=
        Registry.evaluate_error_of_authorized accepted evaluated
      · exact ⟨error, List.mem_cons_of_mem _ listed, rfl⟩
      · obtain ⟨challenge, transform, _, held, failed⟩ := fails.failed
        obtain ⟨matched, verdict⟩ := steady _ transform held (some presented) (some challenge)
        simp [verdict] at failed
  | ok outcome =>
      refine ⟨.invalidCode, List.mem_cons_self, ?_⟩
      simp only [evaluated, Except.bind] at failed
      split at failed
      · simp at failed
      · exact (Except.error.inj failed).symm

theorem redeemable_empty {r : Registry} (steady : r.Steady) (source : Nat → Except Fault Text) :
    (empty r source).Redeemable where
  steady := steady
  accepted code p held := by simp [empty, Mapping.get?_empty] at held

namespace Redeemable

theorem issue (sound : s.Redeemable) (p : Parameters) : (s.issue p).2.Redeemable where
  steady := registry_issue s p ▸ sound.steady
  accepted code stored held := by
    rw [registry_issue]
    cases answer : (s.issue p).1.result with
    | error failure =>
        rw [issue_next_of_error answer] at held
        exact sound.accepted code stored held
    | ok fresh =>
        rw [issue_next_of_ok answer, Mapping.get?_insert] at held
        split at held
        · obtain rfl : p = stored := Option.some.inj held
          exact (issue_eq_ok_iff.mp answer).1
        · exact sound.accepted code stored held

theorem consume (sound : s.Redeemable) (value : Text) : (s.consume value).2.Redeemable where
  steady := registry_consume s value ▸ sound.steady
  accepted code stored held := by
    rw [get?_consume] at held
    rw [registry_consume]
    split at held
    · simp at held
    · exact sound.accepted code stored held

theorem register (sound : s.Redeemable) {registration : Registration}
    (total : registration.transform.Total) : (s.register registration).2.Redeemable where
  steady := sound.steady.register total
  accepted code stored held := by
    obtain ⟨binding, accepted⟩ := sound.accepted code stored held
    exact ⟨binding, Registry.authorize_register registration accepted⟩

theorem perform (sound : s.Redeemable) {call : Call}
    (total : ∀ registration, call = .register registration → registration.transform.Total) :
    (s.perform call).2.Redeemable := by
  cases call with
  | issue p => exact sound.issue p
  | consume value => exact sound.consume value
  | register registration => exact sound.register (total registration rfl)

theorem consume_error (sound : s.Redeemable)
    (failed : (s.consume value).1.result = .error failure) :
    ∃ error ∈ redemptionErrors, failure = .refused error := by
  cases known : s.outstanding.get? (CodeValue.decode value).1 with
  | none =>
      rw [consume_of_unknown known] at failed
      exact ⟨.invalidCode, List.mem_cons_self, (Except.error.inj failed).symm⟩
  | some p =>
      rw [consume_of_known known] at failed
      obtain ⟨binding, accepted⟩ := sound.accepted _ p known
      exact settle_error sound.steady accepted failed

theorem history_error (sound : s.Redeemable) {calls : List Call}
    (total : ∀ registration, Call.register registration ∈ calls → registration.transform.Total)
    {report : Report Parameters} (member : .consumed value report ∈ s.history calls)
    (failed : report.result = .error failure) :
    ∃ error ∈ redemptionErrors, failure = .refused error := by
  induction calls generalizing s with
  | nil => simp [history] at member
  | cons call more ih =>
      rcases List.mem_cons.mp member with here | later
      · cases call with
        | issue p => simp [CodeStore.perform] at here
        | consume presented =>
            simp only [CodeStore.perform, Record.consumed.injEq] at here
            obtain ⟨rfl, rfl⟩ := here
            exact sound.consume_error failed
        | register registration => simp [CodeStore.perform] at here
      · have next : (s.perform call).2.Redeemable := sound.perform fun registration same =>
          total registration (same ▸ List.mem_cons_self)
        exact ih next (fun registration member =>
          total registration (List.mem_cons_of_mem call member)) later

end Redeemable

/-- However issuing, redeeming and registering are mixed, no redemption fails for the challenge
or the method that its code is bound to, nor for a space in the code. It goes through, or it is
refused for the code or for the verifier. -/
theorem redemptions_never_blame_binding (r : Registry) (steady : r.Steady)
    (source : Nat → Except Fault Text) (calls : List Call)
    (total : ∀ registration, Call.register registration ∈ calls → registration.transform.Total) :
    ∀ value report, Record.consumed value report ∈ (empty r source).history calls →
      (∃ p, report.result = .ok p) ∨
      ∃ error, report.result = .error (.refused error) ∧
        ¬(Failure.refused error).BlamesBinding ∧ error.kind ≠ .malformedCode ∧
        error.kind ∈ [ErrorKind.invalidGrant, .missingVerifier, .missingChallenge,
          .invalidVerifierSyntax] := by
  intro value report member
  cases answer : report.result with
  | ok p => exact .inl ⟨p, rfl⟩
  | error failure =>
      obtain ⟨error, listed, rfl⟩ :=
        (redeemable_empty steady source).history_error total member answer
      exact .inr ⟨error, rfl, blameless_of_redemptionErrors listed⟩

/-- A transform is replaced while a code for its method is outstanding. The redemption that follows
is refused for its short verifier. -/
theorem redemptions_never_blame_binding_sample :
    let p : Parameters := Mapping.ofList [
      (Parameters.challengeName, some Challenge.sampleChallenge),
      (Parameters.methodName, some Transform.s256Id)]
    let start := empty Registry.initial fun _ => .ok "code"
    let before := [Call.register ⟨.s256, 1⟩, .issue p, .register ⟨.s256, 2⟩]
    let report := ((start.after before).consume "code short").1
    (start.after before).outstanding.contains "code" = true ∧
      report.result = .error (.refused .malformedVerifier) ∧
      ¬(Failure.refused .malformedVerifier).BlamesBinding := by
  intro p start before report
  have total : ∀ registration, Call.register registration ∈ before ++ [.consume "code short"] →
      registration.transform.Total := by
    intro registration member
    simp only [before, List.cons_append, List.nil_append, List.mem_cons, Call.register.injEq,
      reduceCtorEq, List.not_mem_nil, or_false, false_or] at member
    rcases member with rfl | rfl <;> exact Transform.s256_total
  have answer : report.result = .error (.refused .malformedVerifier) := rfl
  have member : Record.consumed "code short" report ∈
      start.history (before ++ [.consume "code short"]) := by
    rw [history_append]
    exact List.mem_append_right _ List.mem_cons_self
  obtain ⟨stored, allowed⟩ | ⟨error, refused, blameless, _⟩ :=
    redemptions_never_blame_binding Registry.initial Registry.steady_initial _ _ total _ _ member
  · simp [answer] at allowed
  · rw [answer] at refused
    obtain rfl : OAuthError.malformedVerifier = error :=
      Failure.refused.inj (Except.error.inj refused)
    exact ⟨rfl, answer, blameless⟩

end ProofKey.CodeStore
