import ProofKey.Authorization
import ProofKey.Proofs.Evaluation

/-! # What the log tells of a check

What is logged about a request is read off the class of its result alone. The class
names the kind of error, or else the method and the verdict, and has nothing else of
the challenge or the verifier. One event would quote a verifier, but under the
built-in transforms it never arises: a verifier that passes the grammar can be
hashed, and no other verifier comes as far as a transform.
-/

namespace ProofKey

/-- The kind of an error without the method id that was asked for. -/
def ErrorKind.bare : ErrorKind → ErrorKind
  | unsupportedMethod _ => unsupportedMethod none
  | kind => kind

theorem ErrorKind.name_bare (kind : ErrorKind) : kind.bare.name = kind.name := by
  cases kind <;> rfl

theorem ErrorKind.code_bare (kind : ErrorKind) : kind.bare.code = kind.code := by
  cases kind <;> rfl

/-- The kind of error that a failure is; faults have none. -/
def Failure.bare? : Failure → Option ErrorKind
  | refused error => some error.kind.bare
  | fault _ => none

/-- What an observer learns of an evaluation. -/
inductive EvaluationClass where
  | failed (kind : Option ErrorKind)
  | noPkce
  | verified (methodId : Text) (matched : Bool)
  deriving DecidableEq

inductive AuthorizationClass where
  | failed (kind : Option ErrorKind)
  | unbound
  | bound (methodId : Text)
  deriving DecidableEq

def EvaluationClass.log : EvaluationClass → List LogEvent
  | failed _ => []
  | noPkce => [.noPkce]
  | verified methodId matched => [.verdict methodId matched]

def AuthorizationClass.log : AuthorizationClass → List LogEvent
  | failed _ => []
  | unbound => []
  | bound methodId => [.challengeAccepted methodId]

/-- An event that shows nothing that a request brought: neither code nor challenge nor verifier, and
a method id only if that is registered. -/
def LogEvent.Discreet (r : Registry) : LogEvent → Prop
  | verdict methodId _ | challengeAccepted methodId => r.supports methodId = true
  | noPkce | codeIssued _ | unknownCode | codeRejected => True
  | requestRejected errorName errorCode =>
      ∃ kind : ErrorKind, errorName = kind.name ∧ errorCode = kind.code
  | registered _ | replaced .. | unhashableVerifier _ | queryNotAllowed => False

namespace Registry

variable {r : Registry} {p : Parameters} {methodId challenge presented : Text}
  {verifier : Option Text}

/-- No transforms but those of RFC 7636, one or both of them. -/
def BuiltIn (r : Registry) : Prop :=
  ∀ methodId transform, r.get? methodId = some transform → transform ∈ Transform.builtIn

theorem builtIn_initial : initial.BuiltIn := by
  intro methodId transform held
  obtain rfl := eq_plain_of_get?_initial held
  exact Transform.mem_builtIn_iff.mpr (.inr rfl)

theorem BuiltIn.register {registration : Registration} (builtIn : r.BuiltIn)
    (listed : registration.transform ∈ Transform.builtIn) : (r.register registration).BuiltIn := by
  intro methodId transform held
  rcases eq_or_get?_of_get?_register held with rfl | before
  · exact listed
  · exact builtIn methodId transform before

def evaluationClass (r : Registry) (p : Parameters) (verifier : Option Text) : EvaluationClass :=
  match (r.evaluate p verifier).result with
  | .error failure => .failed failure.bare?
  | .ok .noPkce => .noPkce
  | .ok (.verified matched) => .verified p.methodId matched

def authorizationClass (r : Registry) (p : Parameters) : AuthorizationClass :=
  match (r.authorize p).result with
  | .error failure => .failed failure.bare?
  | .ok none => .unbound
  | .ok (some binding) => .bound binding.methodId

/-- A built-in transform gives its verdict on a verifier that passes the grammar, and logs
nothing. -/
theorem verify_silent {transform : Transform} (builtIn : transform ∈ Transform.builtIn)
    (wf : Grammar.wellFormed presented = true) (challenge : Text) :
    ∃ matched, transform.verify (some presented) (some challenge) = .ok matched := by
  rcases Transform.mem_builtIn_iff.mp builtIn with rfl | rfl
  · obtain ⟨derived, derivation⟩ := Challenge.exists_s256 wf
    exact ⟨Transform.sameBytes derived challenge, by simp [Transform.s256, derivation]⟩
  · exact ⟨Transform.sameBytes presented challenge, rfl⟩

theorem check_cases (builtIn : r.BuiltIn) (methodId challenge presented : Text) :
    (∃ failure, r.check methodId challenge presented = ⟨.error failure, []⟩) ∨
    ∃ matched, r.supports methodId = true ∧ r.check methodId challenge presented =
      ⟨.ok (.verified matched), [.verdict methodId matched]⟩ := by
  rw [supports_eq_isSome]
  unfold check
  cases held : r.get? methodId with
  | none => exact .inl ⟨_, rfl⟩
  | some transform =>
      by_cases challengeWf : Grammar.wellFormed challenge = true
      · by_cases verifierWf : Grammar.wellFormed presented = true
        · obtain ⟨matched, verdict⟩ := verify_silent (builtIn _ _ held) verifierWf challenge
          refine .inr ⟨matched, rfl, ?_⟩
          simp [challengeWf, verifierWf, verdict, Report.ok_bind]
        · exact .inl ⟨.refused .malformedVerifier, by simp [challengeWf, verifierWf, Report.refuse]⟩
      · exact .inl ⟨.refused .malformedChallenge, by simp [challengeWf, Report.refuse]⟩

/-- All that an evaluation can come to, with what it logs. -/
theorem evaluate_cases (builtIn : r.BuiltIn) (p : Parameters) (verifier : Option Text) :
    (∃ failure, r.evaluate p verifier = ⟨.error failure, []⟩) ∨
    r.evaluate p verifier = ⟨.ok .noPkce, [.noPkce]⟩ ∨
    ∃ matched, r.supports p.methodId = true ∧ r.evaluate p verifier =
      ⟨.ok (.verified matched), [.verdict p.methodId matched]⟩ := by
  unfold evaluate
  cases p.challenge? with
  | none =>
      cases present? verifier with
      | none => exact .inr (.inl rfl)
      | some presented => exact .inl ⟨_, rfl⟩
  | some challenge =>
      cases present? verifier with
      | none => exact .inl ⟨_, rfl⟩
      | some presented => exact (check_cases builtIn _ challenge presented).imp_right .inr

theorem authorize_cases (r : Registry) (p : Parameters) :
    (∃ failure, r.authorize p = ⟨.error failure, []⟩) ∨
    r.authorize p = ⟨.ok none, []⟩ ∨
    ∃ challenge, r.supports p.methodId = true ∧ r.authorize p =
      ⟨.ok (some ⟨challenge, p.methodId⟩), [.challengeAccepted p.methodId]⟩ := by
  unfold authorize
  cases p.challenge? with
  | none => exact .inr (.inl rfl)
  | some challenge =>
      by_cases wf : Grammar.wellFormed challenge = true
      · by_cases supported : r.supports p.methodId = true
        · exact .inr (.inr ⟨challenge, supported, by simp [wf, supported]⟩)
        · exact .inl ⟨_, by simp only [wf, supported, if_true, Report.refuse]; rfl⟩
      · exact .inl ⟨.refused .malformedChallenge, by simp [wf, Report.refuse]⟩

theorem log_evaluate (builtIn : r.BuiltIn) (p : Parameters) (verifier : Option Text) :
    (r.evaluate p verifier).log = (r.evaluationClass p verifier).log := by
  unfold evaluationClass
  rcases evaluate_cases builtIn p verifier with ⟨_, report⟩ | report | ⟨_, _, report⟩ <;>
    rw [report] <;> rfl

theorem log_authorize (r : Registry) (p : Parameters) :
    (r.authorize p).log = (r.authorizationClass p).log := by
  unfold authorizationClass
  rcases authorize_cases r p with ⟨_, report⟩ | report | ⟨_, _, report⟩ <;> rw [report] <;> rfl

theorem discreet_evaluate (builtIn : r.BuiltIn) {event : LogEvent}
    (logged : event ∈ (r.evaluate p verifier).log) : event.Discreet r := by
  rcases evaluate_cases builtIn p verifier with ⟨_, report⟩ | report | ⟨_, supported, report⟩
  · simp [report] at logged
  · obtain rfl : event = .noPkce := by simpa [report] using logged
    trivial
  · rw [report] at logged
    obtain rfl := List.mem_singleton.mp logged
    exact supported

theorem discreet_authorize {event : LogEvent} (logged : event ∈ (r.authorize p).log) :
    event.Discreet r := by
  rcases authorize_cases r p with ⟨_, report⟩ | report | ⟨_, supported, report⟩
  · simp [report] at logged
  · simp [report] at logged
  · rw [report] at logged
    obtain rfl := List.mem_singleton.mp logged
    exact supported

end Registry

end ProofKey
