import ProofKey.Proofs.Authorization
import ProofKey.Proofs.Evaluation

/-! # The two steps agree

The authorization step and the token step each find out on their own whether there
is a challenge, which method it is for, and whether both will do, and they look in
different orders. They come to the same conclusion all the same. What the first
step accepts is judged at the second as its binding is, and can fail there only for
the verifier or in the transform. What the first refuses, the second refuses as
soon as a verifier is presented.
-/

namespace ProofKey

theorem Parameters.methodId_ne_nil (p : Parameters) : p.methodId ≠ [] := by
  cases named : p.method? with
  | none =>
      have preset : defaultMethodId ≠ [] := by decide
      simpa [Parameters.methodId, named] using preset
  | some methodId =>
      simpa [Parameters.methodId, named] using (present?_eq_some_iff.mp named).2

/-- The challenge of the request is there and breaks the grammar. -/
def Parameters.MalformedChallenge (p : Parameters) : Prop :=
  ∃ challenge, p.challenge? = some challenge ∧ Grammar.wellFormed challenge = false

theorem Parameters.malformedChallenge_iff {p : Parameters} {challenge : Text}
    (bound : p.challenge? = some challenge) :
    p.MalformedChallenge ↔ Grammar.wellFormed challenge = false := by
  simp [MalformedChallenge, bound]

namespace Binding

variable {b : Binding}

theorem challenge?_parameters (used : b.challenge ≠ []) :
    b.parameters.challenge? = some b.challenge := by
  refine present?_eq_some_iff.mpr ⟨?_, used⟩
  have apart : Parameters.methodName ≠ Parameters.challengeName := by decide
  simp [parameters, Mapping.ofList, Mapping.insertAll, Parameters.value?, Mapping.get?_insert,
    apart]

theorem methodId_parameters (used : b.methodId ≠ []) : b.parameters.methodId = b.methodId := by
  refine Parameters.methodId_of_named ?_ used
  simp [parameters, Mapping.ofList, Mapping.insertAll, Parameters.value?, Mapping.get?_insert]

end Binding

/-- The failure blames the challenge or its method, the two parts of a binding. -/
def Failure.BlamesBinding : Failure → Prop
  | .refused error =>
      error.kind = .invalidChallengeSyntax ∨ ∃ methodId, error.kind = .unsupportedMethod methodId
  | .fault _ => False

/-- A transform for a method that is no longer wanted. It answers each check as if the method were
not there. -/
def Transform.withdrawn (methodId : Text) : Transform where
  name := "WithdrawnTransform"
  methodId
  verify _ _ := .refuse (.methodNotRegistered methodId)

/-- What is left to go wrong at the token step: the verifier is missing, is one too many, or breaks
the grammar. -/
def OAuthError.verifierErrors : List OAuthError :=
  [missingVerifier, missingChallenge, malformedVerifier]

theorem OAuthError.not_blamesBinding {error : OAuthError} (listed : error ∈ verifierErrors) :
    ¬(Failure.refused error).BlamesBinding := by
  simp only [verifierErrors, List.mem_cons, List.not_mem_nil, or_false] at listed
  rcases listed with rfl | rfl | rfl
  · simp [Failure.BlamesBinding, missingVerifier]
  · simp [Failure.BlamesBinding, missingChallenge]
  · simp [Failure.BlamesBinding, malformedVerifier]

namespace Registry

variable {r : Registry} {p : Parameters} {binding : Option Binding} {verifier : Option Text}
  {challenge presented : Text} {failure : Failure}

/-- Nothing was wrong with challenge, method and verifier, and the failure is the transform's
own. -/
structure TransformFails (r : Registry) (p : Parameters) (presented : Text) (failure : Failure) :
    Prop where
  challengeWellFormed : ¬p.MalformedChallenge
  verifierWellFormed : Grammar.wellFormed presented = true
  failed : ∃ challenge transform, p.challenge? = some challenge ∧
    r.get? p.methodId = some transform ∧
    (transform.verify (some presented) (some challenge)).result = .error failure

theorem evaluate_of_bound (bound : p.challenge? = some challenge)
    (sent : present? verifier = some presented) :
    r.evaluate p verifier = r.check p.methodId challenge presented := by
  simp only [evaluate, bound, sent]

/-- Evaluation reads nothing but the challenge and its method. -/
theorem evaluate_congr {q : Parameters} (sameChallenge : p.challenge? = q.challenge?)
    (sameMethod : p.challenge? ≠ none → p.methodId = q.methodId) :
    r.evaluate p verifier = r.evaluate q verifier := by
  simp only [evaluate, ← sameChallenge]
  cases bound : p.challenge? with
  | none => cases present? verifier <;> rfl
  | some challenge => rw [sameMethod (by simp [bound])]

theorem evaluateBinding_none (unbound : p.challenge? = none) :
    r.evaluateBinding none verifier = r.evaluate p verifier := by
  have same : Parameters.challenge? Mapping.empty = p.challenge? := unbound.symm
  rw [evaluateBinding, Option.map_none, Option.getD_none]
  exact evaluate_congr same fun used => absurd rfl used

theorem evaluateBinding_some {b : Binding} (bound : p.challenge? = some b.challenge)
    (selected : p.methodId = b.methodId) :
    r.evaluateBinding (some b) verifier = r.evaluate p verifier := by
  have used : b.challenge ≠ [] := (present?_eq_some_iff.mp bound).2
  have same : b.parameters.challenge? = p.challenge? :=
    (Binding.challenge?_parameters used).trans bound.symm
  have method : b.parameters.methodId = p.methodId :=
    (Binding.methodId_parameters (selected ▸ p.methodId_ne_nil)).trans selected.symm
  rw [evaluateBinding, Option.map_some, Option.getD_some]
  exact evaluate_congr same fun _ => method

theorem evaluateBinding_of_authorized (accepted : (r.authorize p).result = .ok binding) :
    r.evaluateBinding binding verifier = r.evaluate p verifier := by
  obtain ⟨unbound, rfl⟩ | ⟨challenge, bound, _, _, rfl⟩ := authorize_eq_ok_iff.mp accepted
  · exact evaluateBinding_none unbound
  · exact evaluateBinding_some bound rfl

/-- After authorization only the verifier can be at fault, be it that there is none, or the
transform itself. -/
theorem evaluate_error_of_authorized (accepted : (r.authorize p).result = .ok binding)
    (failed : (r.evaluate p verifier).result = .error failure) :
    (∃ error ∈ OAuthError.verifierErrors, failure = .refused error) ∨
    ∃ presented, present? verifier = some presented ∧ r.TransformFails p presented failure := by
  obtain ⟨_, _, rfl⟩ | ⟨_, _, rfl⟩ | ⟨challenge, presented, bound, sent, failed⟩ :=
    evaluate_error_iff.mp failed
  · exact .inl ⟨.missingVerifier, by simp [OAuthError.verifierErrors], rfl⟩
  · exact .inl ⟨.missingChallenge, by simp [OAuthError.verifierErrors], rfl⟩
  -- of what the check looks for, authorization has looked for the method and the challenge
  obtain ⟨unbound, _⟩ | ⟨held, alsoBound, wf, supported, _⟩ := authorize_eq_ok_iff.mp accepted
  · simp [bound] at unbound
  obtain rfl : challenge = held := Option.some.inj (bound.symm.trans alsoBound)
  obtain ⟨unsupported, _⟩ | ⟨_, malformed, _⟩ | ⟨_, _, _, rfl⟩ | ⟨_, verifierWf, own⟩ :=
    check_error_iff.mp failed
  · simp [supported] at unsupported
  · simp [wf] at malformed
  · exact .inl ⟨.malformedVerifier, by simp [OAuthError.verifierErrors], rfl⟩
  · obtain ⟨transform, held, failed⟩ := own
    have sound : ¬p.MalformedChallenge := by simp [Parameters.malformedChallenge_iff bound, wf]
    exact .inr ⟨presented, sent, sound, verifierWf, challenge, transform, bound, held, failed⟩

/-- What authorization refuses is refused again when a verifier comes, for the method if that is
not supported, and else for the challenge. -/
theorem evaluate_of_unauthorized (refused : (r.authorize p).result = .error failure)
    (sent : present? verifier = some presented) :
    (r.evaluate p verifier).result = .error (.refused
      (if r.supports p.methodId then .malformedChallenge
        else .methodNotRegistered p.methodId)) := by
  obtain ⟨challenge, bound, why⟩ := authorize_error_iff.mp refused
  rw [evaluate_of_bound bound sent, check_error_iff]
  cases supported : r.supports p.methodId with
  | false => exact .inl ⟨rfl, rfl⟩
  | true =>
      obtain ⟨malformed, _⟩ | ⟨_, unsupported, _⟩ := why
      · exact .inr (.inl ⟨rfl, malformed, rfl⟩)
      · simp [supported] at unsupported

theorem not_transformFails_of_unauthorized (refused : (r.authorize p).result = .error failure)
    {own : Failure} : ¬r.TransformFails p presented own := by
  intro fails
  obtain ⟨challenge, bound, ⟨malformed, _⟩ | ⟨_, unsupported, _⟩⟩ :=
    authorize_error_iff.mp refused
  · exact fails.challengeWellFormed ((Parameters.malformedChallenge_iff bound).mpr malformed)
  · obtain ⟨_, transform, _, held, _⟩ := fails.failed
    simp [supports_eq_isSome, held] at unsupported

theorem unauthorized_iff (sent : present? verifier = some presented) :
    (∃ failure, (r.authorize p).result = .error failure) ↔
      ∃ failure, (r.evaluate p verifier).result = .error failure ∧ failure.BlamesBinding ∧
        ¬r.TransformFails p presented failure := by
  constructor
  · rintro ⟨failure, refused⟩
    refine ⟨_, evaluate_of_unauthorized refused sent, ?_,
      not_transformFails_of_unauthorized refused⟩
    cases r.supports p.methodId with
    | true => exact .inl rfl
    | false => exact .inr ⟨_, rfl⟩
  · rintro ⟨failure, failed, blames, notOwn⟩
    cases accepted : (r.authorize p).result with
    | error refusal => exact ⟨refusal, rfl⟩
    | ok binding =>
        obtain ⟨error, listed, rfl⟩ | ⟨other, same, own⟩ :=
          evaluate_error_of_authorized accepted failed
        · exact absurd blames (OAuthError.not_blamesBinding listed)
        · obtain rfl : presented = other := Option.some.inj (sent.symm.trans same)
          exact absurd own notOwn

/-- Both steps refuse a request for the same fault, unless it has both: authorization then names the
challenge and evaluation the method. -/
theorem kinds_of_unauthorized (refused : (r.authorize p).result = .error failure)
    (sent : present? verifier = some presented) :
    ∃ first second, failure = .refused first ∧
      (r.evaluate p verifier).result = .error (.refused second) ∧
      (p.MalformedChallenge ∧ r.supports p.methodId = false →
        first.kind = .invalidChallengeSyntax ∧
          second.kind = .unsupportedMethod (some p.methodId)) ∧
      (¬(p.MalformedChallenge ∧ r.supports p.methodId = false) → first.kind = second.kind) := by
  have again := evaluate_of_unauthorized refused sent
  obtain ⟨challenge, bound, why⟩ := authorize_error_iff.mp refused
  have malformed_iff := Parameters.malformedChallenge_iff bound
  obtain ⟨malformed, rfl⟩ | ⟨wf, unsupported, rfl⟩ := why
  · refine ⟨_, _, rfl, again, ?_, ?_⟩
    · rintro ⟨_, unsupported⟩
      simp [unsupported, OAuthError.malformedChallenge, OAuthError.methodNotRegistered]
    · intro apart
      have supported : r.supports p.methodId = true := by
        simpa [malformed_iff, malformed] using apart
      simp [supported]
  · refine ⟨_, _, rfl, again, ?_, ?_⟩
    · rintro ⟨malformed, _⟩
      simp [malformed_iff, wf] at malformed
    · intro _
      simp [unsupported, OAuthError.methodNotOffered, OAuthError.methodNotRegistered]

/-- The two steps agree on every request. An accepted request is evaluated as its binding is, or
as no binding if it has none, with the same outcome, the same failure and the same log. With a
verifier presented, authorization refuses a request exactly if evaluation blames the challenge or
the method, failures of the transform itself apart, and both give the same kind of error and the
same method. Only where the challenge is malformed and the method is not supported either do they
name different ones of these two faults. -/
theorem authorize_agrees_with_evaluate (r : Registry) (p : Parameters) :
    (∀ binding verifier, (r.authorize p).result = .ok binding →
      r.evaluate p verifier = r.evaluateBinding binding verifier) ∧
    ∀ presented, presented ≠ [] →
      let answer := (r.evaluate p (some presented)).result
      ((∃ failure, (r.authorize p).result = .error failure) ↔
        ∃ failure, answer = .error failure ∧ failure.BlamesBinding ∧
          ¬r.TransformFails p presented failure) ∧
      ∀ failure, (r.authorize p).result = .error failure →
        ∃ first second, failure = .refused first ∧ answer = .error (.refused second) ∧
          (p.MalformedChallenge ∧ r.supports p.methodId = false →
            first.kind = .invalidChallengeSyntax ∧
              second.kind = .unsupportedMethod (some p.methodId)) ∧
          (¬(p.MalformedChallenge ∧ r.supports p.methodId = false) →
            first.kind = second.kind) := by
  refine ⟨fun _ _ accepted => (evaluateBinding_of_authorized accepted).symm, ?_⟩
  intro presented used answer
  have sent : present? (some presented) = some presented :=
    present?_eq_some_iff.mpr ⟨rfl, used⟩
  exact ⟨unauthorized_iff sent, fun _ refused => kinds_of_unauthorized refused sent⟩

/-- A transform may blame the method itself. Then evaluation names the method as the fault in a
request that authorization accepts. -/
theorem authorized_method_blamed :
    let r := initial.register ⟨.withdrawn "X", 1⟩
    let p : Parameters := Mapping.ofList [
      (Parameters.challengeName, some Challenge.sampleChallenge),
      (Parameters.methodName, some "X")]
    (r.authorize p).result = .ok (some ⟨Challenge.sampleChallenge, "X"⟩) ∧
      ¬((∃ failure, (r.authorize p).result = .error failure) ↔
        ∃ failure, (r.evaluate p (some Challenge.sampleVerifier)).result = .error failure ∧
          failure.BlamesBinding) := by
  intro r p
  have accepted : (r.authorize p).result = .ok (some ⟨Challenge.sampleChallenge, "X"⟩) := rfl
  have blamed : (r.evaluate p (some Challenge.sampleVerifier)).result =
      .error (.refused (.methodNotRegistered "X")) := rfl
  refine ⟨accepted, fun agree => ?_⟩
  obtain ⟨failure, refused⟩ := agree.mpr ⟨_, blamed, .inr ⟨some "X", rfl⟩⟩
  rw [accepted] at refused
  cases refused

-- both faults in one request
example :
    let p : Parameters := Mapping.ofList [(Parameters.challengeName, some "short"),
      (Parameters.methodName, some "S512")]
    (initial.authorize p).result = .error (.refused .malformedChallenge) ∧
      (initial.evaluate p (some "verifier")).result =
        .error (.refused (.methodNotRegistered "S512")) := ⟨rfl, rfl⟩

end Registry

end ProofKey
