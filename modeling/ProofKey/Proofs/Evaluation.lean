import ProofKey.CodeStore
import ProofKey.Proofs.Transform

/-! # When a redemption is admitted

Two conditions let a redemption pass: a well-formed verifier that the transform
of the stored method accepts for the stored, well-formed challenge, or neither a
challenge nor a verifier. Nothing else does, and in either case the redemption
does pass.
-/

namespace ProofKey

theorem present?_eq_none_iff {v : Option Text} : present? v = none ↔ v = none ∨ v = some [] := by
  match v with
  | none => simp [present?]
  | some [] => simp [present?]
  | some (c :: rest) => simp [present?]

namespace Parameters

variable {p : Parameters} {methodId : Text}

theorem methodId_of_named (named : p.value? methodName = some methodId)
    (nonempty : methodId ≠ []) : p.methodId = methodId := by
  have present : p.method? = some methodId := present?_eq_some_iff.mpr ⟨named, nonempty⟩
  simp [Parameters.methodId, present]

theorem methodId_of_unnamed
    (unnamed : p.value? methodName = none ∨ p.value? methodName = some []) :
    p.methodId = Transform.plainId := by
  have absent : p.method? = none := present?_eq_none_iff.mpr unnamed
  simp [Parameters.methodId, absent, defaultMethodId]

end Parameters

namespace Registry

variable {r : Registry} {p : Parameters} {methodId challenge presented : Text}
  {verifier : Option Text} {outcome : Outcome}

/-- A challenge that some parameters hold, and a verifier for it under the transform of their
method. -/
structure Verifies (r : Registry) (p : Parameters) (challenge presented : Text) : Prop where
  bound : p.value? Parameters.challengeName = some challenge
  challengeWellFormed : Grammar.wellFormed challenge = true
  verifierWellFormed : Grammar.wellFormed presented = true
  accepted : ∃ transform, r.get? p.methodId = some transform ∧
    transform.Accepts presented challenge

/-- Neither side uses PKCE; an empty text or a parameter without a value is no use of it. -/
structure WithoutPkce (p : Parameters) (verifier : Option Text) : Prop where
  unbound : p.value? Parameters.challengeName = none ∨
    p.value? Parameters.challengeName = some []
  unsent : verifier = none ∨ verifier = some []

/-- A redemption with these parameters and this verifier may pass. -/
def Admits (r : Registry) (p : Parameters) (verifier : Option Text) : Prop :=
  (∃ challenge presented, verifier = some presented ∧ r.Verifies p challenge presented) ∨
    WithoutPkce p verifier

theorem ne_nil_of_wellFormed {t : Text} (wf : Grammar.wellFormed t = true) : t ≠ [] := by
  rintro rfl
  simp [Grammar.wellFormed, Grammar.minLength] at wf

theorem check_eq_ok_iff : (r.check methodId challenge presented).result = .ok outcome ↔
    Grammar.wellFormed challenge = true ∧ Grammar.wellFormed presented = true ∧
      ∃ transform matched, r.get? methodId = some transform ∧
        (transform.verify (some presented) (some challenge)).result = .ok matched ∧
        outcome = .verified matched := by
  unfold check
  cases found : r.get? methodId with
  | none => simp [Report.refuse]
  | some transform =>
      by_cases challengeWf : Grammar.wellFormed challenge = true
      · by_cases verifierWf : Grammar.wellFormed presented = true
        · cases verdict : (transform.verify (some presented) (some challenge)).result with
          | error failure =>
              simp [challengeWf, verifierWf, Report.result_bind, verdict, Except.bind]
          | ok matched =>
              cases matched <;>
                simp [challengeWf, verifierWf, Report.result_bind, verdict, Except.bind, eq_comm]
        · simp [challengeWf, verifierWf, Report.refuse]
      · simp [challengeWf, Report.refuse]

/-- All that can go wrong in the check, in the order in which it is looked for. -/
theorem check_error_iff {failure : Failure} :
    (r.check methodId challenge presented).result = .error failure ↔
      (r.supports methodId = false ∧ failure = .refused (.methodNotRegistered methodId)) ∨
      (r.supports methodId = true ∧ Grammar.wellFormed challenge = false ∧
        failure = .refused .malformedChallenge) ∨
      (r.supports methodId = true ∧ Grammar.wellFormed challenge = true ∧
        Grammar.wellFormed presented = false ∧ failure = .refused .malformedVerifier) ∨
      (Grammar.wellFormed challenge = true ∧ Grammar.wellFormed presented = true ∧
        ∃ transform, r.get? methodId = some transform ∧
          (transform.verify (some presented) (some challenge)).result = .error failure) := by
  rw [supports_eq_isSome]
  unfold check
  cases found : r.get? methodId with
  | none => simp [Report.refuse, @eq_comm _ failure]
  | some transform =>
      by_cases challengeWf : Grammar.wellFormed challenge = true
      · by_cases verifierWf : Grammar.wellFormed presented = true
        · cases verdict : (transform.verify (some presented) (some challenge)).result with
          | error own => simp [challengeWf, verifierWf, Report.result_bind, verdict, Except.bind]
          | ok matched => simp [challengeWf, verifierWf, Report.result_bind, verdict, Except.bind]
        · simp [challengeWf, verifierWf, Report.refuse, @eq_comm _ failure]
      · simp [challengeWf, Report.refuse, @eq_comm _ failure]

theorem evaluate_error_iff {failure : Failure} :
    (r.evaluate p verifier).result = .error failure ↔
      (p.challenge? ≠ none ∧ present? verifier = none ∧ failure = .refused .missingVerifier) ∨
      (p.challenge? = none ∧ present? verifier ≠ none ∧ failure = .refused .missingChallenge) ∨
      ∃ challenge presented, p.challenge? = some challenge ∧ present? verifier = some presented ∧
        (r.check p.methodId challenge presented).result = .error failure := by
  unfold evaluate
  cases bound : p.challenge? with
  | none =>
      cases sent : present? verifier with
      | none => simp
      | some presented => simp [Report.refuse, @eq_comm _ failure]
  | some challenge =>
      cases sent : present? verifier with
      | none => simp [Report.refuse, @eq_comm _ failure]
      | some presented => simp

theorem evaluate_allows_iff :
    (∃ outcome, (r.evaluate p verifier).result = .ok outcome ∧ outcome.grantAllowed = true) ↔
      r.Admits p verifier := by
  constructor
  · rintro ⟨outcome, evaluated, allowed⟩
    unfold evaluate at evaluated
    cases bound : p.challenge? with
    | none =>
        cases sent : present? verifier with
        | none => exact .inr ⟨present?_eq_none_iff.mp bound, present?_eq_none_iff.mp sent⟩
        | some presented => simp [bound, sent, Report.refuse] at evaluated
    | some challenge =>
        cases sent : present? verifier with
        | none => simp [bound, sent, Report.refuse] at evaluated
        | some presented =>
            simp only [bound, sent] at evaluated
            obtain ⟨challengeWf, verifierWf, transform, matched, found, verdict, rfl⟩ :=
              check_eq_ok_iff.mp evaluated
            have accepted : matched = true := allowed
            subst accepted
            exact .inl ⟨challenge, presented, (present?_eq_some_iff.mp sent).1,
              (present?_eq_some_iff.mp bound).1, challengeWf, verifierWf, transform, found, verdict⟩
  · rintro (⟨challenge, presented, rfl, binding⟩ | absent)
    · have bound : p.challenge? = some challenge := present?_eq_some_iff.mpr
        ⟨binding.bound, ne_nil_of_wellFormed binding.challengeWellFormed⟩
      have sent : present? (some presented) = some presented := present?_eq_some_iff.mpr
        ⟨rfl, ne_nil_of_wellFormed binding.verifierWellFormed⟩
      obtain ⟨transform, found, accepted⟩ := binding.accepted
      refine ⟨.verified true, ?_, rfl⟩
      simp only [evaluate, bound, sent]
      exact check_eq_ok_iff.mpr ⟨binding.challengeWellFormed, binding.verifierWellFormed,
        transform, true, found, accepted, rfl⟩
    · have bound : p.challenge? = none := present?_eq_none_iff.mpr absent.unbound
      have sent : present? verifier = none := present?_eq_none_iff.mpr absent.unsent
      exact ⟨.noPkce, by simp only [evaluate, bound, sent], rfl⟩

/-- The example of RFC 7636 passes wherever its challenge is stored for S256. -/
theorem verifies_sample (held : r.get? p.methodId = some .s256)
    (bound : p.value? Parameters.challengeName = some Challenge.sampleChallenge) :
    r.Verifies p Challenge.sampleChallenge Challenge.sampleVerifier where
  bound := bound
  challengeWellFormed := Challenge.wellFormed_of_s256 Challenge.s256_sampleVerifier
  verifierWellFormed := by decide +kernel
  accepted := ⟨.s256, held, Transform.s256_accepts_iff.mpr Challenge.s256_sampleVerifier⟩

theorem eq_plain_of_get?_initial {transform : Transform}
    (held : initial.get? methodId = some transform) : transform = .plain := by
  simp only [get?, initial, Mapping.get?_insert, Mapping.get?_empty] at held
  split at held
  · exact (Option.some.inj held).symm
  · simp at held

theorem eq_or_get?_of_get?_register {registration : Registration} {transform : Transform}
    (held : (r.register registration).get? methodId = some transform) :
    transform = registration.transform ∨ r.get? methodId = some transform := by
  rw [get?_register] at held
  split at held
  · exact .inl (Option.some.inj held).symm
  · exact .inr held

/-- No transform of the registry fails instead of giving a verdict. -/
def Steady (r : Registry) : Prop :=
  ∀ methodId transform, r.get? methodId = some transform → transform.Total

theorem steady_initial : initial.Steady := by
  intro methodId transform held
  obtain rfl := eq_plain_of_get?_initial held
  exact Transform.plain_total

theorem Steady.register (steady : r.Steady) {registration : Registration}
    (total : registration.transform.Total) : (r.register registration).Steady := by
  intro methodId transform held
  rcases eq_or_get?_of_get?_register held with rfl | before
  · exact total
  · exact steady methodId transform before

theorem check_error (steady : r.Steady) {failure : Failure}
    (h : (r.check methodId challenge presented).result = .error failure) :
    failure = .refused (.methodNotRegistered methodId) ∨ failure = .refused .malformedChallenge ∨
      failure = .refused .malformedVerifier := by
  obtain ⟨_, rfl⟩ | ⟨_, _, rfl⟩ | ⟨_, _, _, rfl⟩ | ⟨_, _, transform, held, failed⟩ :=
    check_error_iff.mp h
  · exact .inl rfl
  · exact .inr (.inl rfl)
  · exact .inr (.inr rfl)
  · obtain ⟨matched, verdict⟩ := steady methodId transform held (some presented) (some challenge)
    simp [verdict] at failed

/-- Without failing transforms, evaluation fails with one of five errors. -/
theorem evaluate_error (steady : r.Steady) {failure : Failure}
    (h : (r.evaluate p verifier).result = .error failure) :
    ∃ error ∈ [OAuthError.missingVerifier, .missingChallenge, .methodNotRegistered p.methodId,
      .malformedChallenge, .malformedVerifier], failure = .refused error := by
  obtain ⟨_, _, rfl⟩ | ⟨_, _, rfl⟩ | ⟨challenge, presented, _, _, failed⟩ :=
    evaluate_error_iff.mp h
  · exact ⟨.missingVerifier, by simp, rfl⟩
  · exact ⟨.missingChallenge, by simp, rfl⟩
  · obtain rfl | rfl | rfl := check_error steady failed
    · exact ⟨_, by simp, rfl⟩
    · exact ⟨_, by simp, rfl⟩
    · exact ⟨_, by simp, rfl⟩

end Registry

namespace CodeStore

variable {r : Registry} {p stored : Parameters} {verifier : Option Text}

theorem settle_result : (settle r p verifier).result =
    (r.evaluate p verifier).result.bind fun outcome =>
      if outcome.grantAllowed then .ok p else .error (.refused .invalidCode) := by
  rw [settle, Report.result_bind]
  congr 1
  funext outcome
  split <;> rfl

theorem settle_eq_ok_iff :
    (settle r p verifier).result = .ok stored ↔ stored = p ∧ r.Admits p verifier := by
  rw [settle_result, ← Registry.evaluate_allows_iff]
  cases evaluated : (r.evaluate p verifier).result with
  | error failure => simp [Except.bind]
  | ok outcome =>
      cases allowed : outcome.grantAllowed with
      | false => simp [Except.bind, allowed]
      | true =>
          simp only [Except.bind, allowed, if_true, Except.ok.injEq]
          exact ⟨fun same => ⟨same.symm, outcome, rfl, allowed⟩, fun h => h.1.symm⟩

end CodeStore

end ProofKey
