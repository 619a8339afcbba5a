import ProofKey.Proofs.Agreement
import ProofKey.Proofs.Registry

/-! # The decision of the token step

RFC 7636, section 4.6, as a table. `Decision` lists the seven ways in which an
evaluation can end, and `Due` says of each when it is the right one, in terms of what
was sent and what is registered. Every case is due one decision, and that is the
answer.
-/

namespace ProofKey

namespace Parameters

/-- A parameter that is missing, has no value, or an empty one. -/
def Absent (p : Parameters) (name : Text) : Prop :=
  p.get? name = none ∨ p.get? name = some none ∨ p.get? name = some (some [])

/-- A parameter that has a value, and not an empty one. -/
def Holds (p : Parameters) (name value : Text) : Prop :=
  p.get? name = some (some value) ∧ value ≠ []

/-- The method that some parameters are for: the one that they name, and else `plain`. -/
def Selects (p : Parameters) (methodId : Text) : Prop :=
  p.Holds methodName methodId ∨ p.Absent methodName ∧ methodId = Transform.plainId

variable {p : Parameters} {name value challenge methodId : Text}

theorem present?_value?_eq_none_iff : present? (p.value? name) = none ↔ p.Absent name := by
  rw [present?_eq_none_iff, Absent, value?]
  rcases p.get? name with _ | _ | value
  · simp
  · simp
  · simp

theorem present?_value?_eq_some_iff :
    present? (p.value? name) = some value ↔ p.Holds name value := by
  rw [present?_eq_some_iff, Holds, value?]
  rcases p.get? name with _ | _ | held
  · simp
  · simp
  · simp

theorem challenge?_eq_none_iff : p.challenge? = none ↔ p.Absent challengeName :=
  present?_value?_eq_none_iff

theorem challenge?_eq_some_iff : p.challenge? = some challenge ↔ p.Holds challengeName challenge :=
  present?_value?_eq_some_iff

theorem selects_iff : p.Selects methodId ↔ p.methodId = methodId := by
  rw [Selects, ← present?_value?_eq_some_iff, ← present?_value?_eq_none_iff]
  change p.method? = some methodId ∨ p.method? = none ∧ _ ↔ _
  cases named : p.method? with
  | none => simp [Parameters.methodId, named, defaultMethodId, eq_comm]
  | some id => simp [Parameters.methodId, named]

end Parameters

/-- How an evaluation can end. -/
inductive Decision where
  /-- Neither side used PKCE. -/
  | noPkce
  /-- There is a challenge and no verifier. -/
  | missingVerifier
  /-- There is a verifier and no challenge. -/
  | missingChallenge
  /-- No transform is registered for the method. -/
  | unsupportedMethod (methodId : Text)
  /-- The challenge breaks the grammar. -/
  | malformedChallenge
  /-- The verifier breaks the grammar. -/
  | malformedVerifier
  /-- The transform gave its verdict. -/
  | verified (matched : Bool)
  deriving DecidableEq, Repr

namespace Decision

/-- What the caller gets: an outcome, or the error for the client. -/
def result : Decision → Except Failure Outcome
  | noPkce => .ok .noPkce
  | missingVerifier => .error (.refused .missingVerifier)
  | missingChallenge => .error (.refused .missingChallenge)
  | unsupportedMethod methodId => .error (.refused (.methodNotRegistered methodId))
  | malformedChallenge => .error (.refused .malformedChallenge)
  | malformedVerifier => .error (.refused .malformedVerifier)
  | verified matched => .ok (.verified matched)

theorem result_injective : Function.Injective result := by
  intro d e same
  cases d <;> cases e <;> cases same <;> rfl

end Decision

namespace Registry

/-- Both sides use PKCE, and the transform of the selected method is to compare their values. -/
structure Compares (r : Registry) (p : Parameters) (verifier : Option Text)
    (transform : Transform) (challenge presented : Text) : Prop where
  bound : p.Holds Parameters.challengeName challenge
  sent : verifier = some presented
  nonempty : presented ≠ []
  registered : ∃ methodId, p.Selects methodId ∧ r.get? methodId = some transform

/-- When a decision is the right one. A verifier is absent if there is none or an empty one. That
the method has no transform comes before all that is wrong with the two values, and a malformed
challenge before a malformed verifier. -/
def Due (r : Registry) (p : Parameters) (verifier : Option Text) : Decision → Prop
  | .noPkce =>
      p.Absent Parameters.challengeName ∧ (verifier = none ∨ verifier = some [])
  | .missingVerifier =>
      ¬p.Absent Parameters.challengeName ∧ (verifier = none ∨ verifier = some [])
  | .missingChallenge =>
      p.Absent Parameters.challengeName ∧ ¬(verifier = none ∨ verifier = some [])
  | .unsupportedMethod methodId =>
      ¬p.Absent Parameters.challengeName ∧ ¬(verifier = none ∨ verifier = some []) ∧
        p.Selects methodId ∧ methodId ∉ r.ids
  | .malformedChallenge =>
      ∃ transform challenge presented, r.Compares p verifier transform challenge presented ∧
        Grammar.wellFormed challenge = false
  | .malformedVerifier =>
      ∃ transform challenge presented, r.Compares p verifier transform challenge presented ∧
        Grammar.wellFormed challenge = true ∧ Grammar.wellFormed presented = false
  | .verified matched =>
      ∃ transform challenge presented, r.Compares p verifier transform challenge presented ∧
        Grammar.wellFormed challenge = true ∧ Grammar.wellFormed presented = true ∧
        (transform.verify (some presented) (some challenge)).result = .ok matched

variable {r : Registry} {p : Parameters} {verifier : Option Text} {transform : Transform}
  {challenge presented methodId : Text} {decision : Decision}

theorem Compares.evaluate (compares : r.Compares p verifier transform challenge presented) :
    r.get? p.methodId = some transform ∧ r.supports p.methodId = true ∧
      r.evaluate p verifier = r.check p.methodId challenge presented := by
  obtain ⟨bound, rfl, nonempty, methodId, selected, held⟩ := compares
  obtain rfl := Parameters.selects_iff.mp selected
  have bound := Parameters.challenge?_eq_some_iff.mpr bound
  have sent : present? (some presented) = some presented :=
    present?_eq_some_iff.mpr ⟨rfl, nonempty⟩
  exact ⟨held, by rw [supports_eq_isSome, held]; rfl, evaluate_of_bound bound sent⟩

theorem evaluate_of_due (due : r.Due p verifier decision) :
    (r.evaluate p verifier).result = decision.result := by
  cases decision with
  | noPkce =>
      simp only [Due, ← Parameters.challenge?_eq_none_iff, ← present?_eq_none_iff] at due
      simp only [evaluate, due.1, due.2, Decision.result]
  | missingVerifier =>
      simp only [Due, ← Parameters.challenge?_eq_none_iff, ← present?_eq_none_iff] at due
      exact evaluate_error_iff.mpr (.inl ⟨due.1, due.2, rfl⟩)
  | missingChallenge =>
      simp only [Due, ← Parameters.challenge?_eq_none_iff, ← present?_eq_none_iff] at due
      exact evaluate_error_iff.mpr (.inr (.inl ⟨due.1, due.2, rfl⟩))
  | unsupportedMethod methodId =>
      simp only [Due, ← Parameters.challenge?_eq_none_iff, ← present?_eq_none_iff] at due
      obtain ⟨bound, sent, selected, unknown⟩ := due
      obtain ⟨challenge, bound⟩ := Option.ne_none_iff_exists'.mp bound
      obtain ⟨presented, sent⟩ := Option.ne_none_iff_exists'.mp sent
      obtain rfl := Parameters.selects_iff.mp selected
      have unsupported : r.supports p.methodId = false := by
        rwa [← Bool.not_eq_true, supports_iff_mem_ids]
      rw [evaluate_of_bound bound sent]
      exact check_error_iff.mpr (.inl ⟨unsupported, rfl⟩)
  -- from here on the method has a transform, so that the check comes to the two values
  | malformedChallenge =>
      obtain ⟨transform, challenge, presented, compares, malformed⟩ := due
      obtain ⟨_, supported, checked⟩ := compares.evaluate
      rw [checked]
      exact check_error_iff.mpr (.inr (.inl ⟨supported, malformed, rfl⟩))
  | malformedVerifier =>
      obtain ⟨transform, challenge, presented, compares, wf, malformed⟩ := due
      obtain ⟨_, supported, checked⟩ := compares.evaluate
      rw [checked]
      exact check_error_iff.mpr (.inr (.inr (.inl ⟨supported, wf, malformed, rfl⟩)))
  | verified matched =>
      obtain ⟨transform, challenge, presented, compares, challengeWf, verifierWf, verdict⟩ := due
      obtain ⟨held, _, checked⟩ := compares.evaluate
      rw [checked]
      exact check_eq_ok_iff.mpr ⟨challengeWf, verifierWf, transform, matched, held, verdict, rfl⟩

/-- Transforms that always give a verdict leave no case without a decision. -/
theorem exists_due (steady : r.Steady) (p : Parameters) (verifier : Option Text) :
    ∃ decision, r.Due p verifier decision := by
  cases bound : p.challenge? with
  | none =>
      have unbound := Parameters.challenge?_eq_none_iff.mp bound
      by_cases unsent : verifier = none ∨ verifier = some []
      · exact ⟨.noPkce, unbound, unsent⟩
      · exact ⟨.missingChallenge, unbound, unsent⟩
  | some challenge =>
      have absent : ¬p.Absent Parameters.challengeName := by
        simp [← Parameters.challenge?_eq_none_iff, bound]
      by_cases unsent : verifier = none ∨ verifier = some []
      · exact ⟨.missingVerifier, absent, unsent⟩
      cases found : r.get? p.methodId with
      | none =>
          exact ⟨.unsupportedMethod p.methodId, absent, unsent, Parameters.selects_iff.mpr rfl,
            by simp [mem_ids_iff, found]⟩
      | some transform =>
          obtain ⟨presented, sent⟩ :=
            Option.ne_none_iff_exists'.mp (mt present?_eq_none_iff.mp unsent)
          obtain ⟨sent, nonempty⟩ := present?_eq_some_iff.mp sent
          have compares : r.Compares p verifier transform challenge presented :=
            ⟨Parameters.challenge?_eq_some_iff.mp bound, sent, nonempty, p.methodId,
              Parameters.selects_iff.mpr rfl, found⟩
          by_cases challengeWf : Grammar.wellFormed challenge = true
          · by_cases verifierWf : Grammar.wellFormed presented = true
            · obtain ⟨matched, verdict⟩ :=
                steady p.methodId transform found (some presented) (some challenge)
              exact ⟨.verified matched, transform, challenge, presented, compares, challengeWf,
                verifierWf, verdict⟩
            · exact ⟨.malformedVerifier, transform, challenge, presented, compares, challengeWf,
                Bool.eq_false_iff.mpr verifierWf⟩
          · exact ⟨.malformedChallenge, transform, challenge, presented, compares,
              Bool.eq_false_iff.mpr challengeWf⟩

theorem evaluate_eq_iff_due (steady : r.Steady) :
    (r.evaluate p verifier).result = decision.result ↔ r.Due p verifier decision := by
  refine ⟨fun answered => ?_, evaluate_of_due⟩
  obtain ⟨due, isDue⟩ := exists_due steady p verifier
  rwa [Decision.result_injective (answered.symm.trans (evaluate_of_due isDue))]

section Standard

/-- Two values that RFC 7636 takes for a match: well-formed both, and equal under `plain`, or the
second hashing to the first under `S256`. -/
structure Matches (p : Parameters) (challenge presented : Text) : Prop where
  bound : p.Holds Parameters.challengeName challenge
  challengeWellFormed : Grammar.wellFormed challenge = true
  verifierWellFormed : Grammar.wellFormed presented = true
  matched :
    ((p.Absent Parameters.methodName ∨ p.Holds Parameters.methodName Transform.plainId) ∧
      presented = challenge) ∨
    (p.Holds Parameters.methodName Transform.s256Id ∧
      challenge = Base64Url.encode (Sha256.digest (presented.map fun c => UInt8.ofNat c.value)))

theorem selects_plain_iff : p.Selects Transform.plainId ↔
    p.Absent Parameters.methodName ∨ p.Holds Parameters.methodName Transform.plainId := by
  rw [Parameters.Selects, or_comm, and_iff_left rfl]

theorem selects_s256_iff :
    p.Selects Transform.s256Id ↔ p.Holds Parameters.methodName Transform.s256Id := by
  have apart : Transform.s256Id ≠ Transform.plainId := by decide
  simp [Parameters.Selects, apart]

theorem s256_eq_ok_iff (wf : Grammar.wellFormed presented = true) :
    Challenge.s256 presented = .ok challenge ↔
      challenge =
        Base64Url.encode (Sha256.digest (presented.map fun c => UInt8.ofNat c.value)) := by
  obtain ⟨_, _, unreserved⟩ := Grammar.wellFormed_iff.mp wf
  have ascii := Ascii.encode_of_ascii fun c member =>
    Grammar.isAscii_of_isUnreserved (unreserved c member)
  simp only [Challenge.s256, ascii, Except.map, Except.ok.injEq, eq_comm]

theorem get?_standard_eq_some_iff :
    (initial.registerAll [.s256]).get? methodId = some transform ↔
      (methodId = Transform.plainId ∧ transform = .plain) ∨
        (methodId = Transform.s256Id ∧ transform = .s256) := by
  have held : (initial.registerAll [.s256]).get? methodId =
      if Transform.s256Id = methodId then some .s256
      else if methodId = Transform.plainId then some .plain else none := by
    rw [get?_registerAll, ← List.nil_append [Transform.s256], lastFor_concat]
    rfl
  have apart : Transform.s256Id ≠ Transform.plainId := by decide
  rw [held]
  by_cases hashed : methodId = Transform.s256Id
  · simp [hashed, apart, @eq_comm _ _ transform]
  · by_cases compared : methodId = Transform.plainId
    · simp [compared, apart, apart.symm, @eq_comm _ _ transform]
    · simp [hashed, compared, @eq_comm _ Transform.s256Id]

theorem steady_standard : (initial.registerAll [.s256]).Steady :=
  steady_initial.register Transform.s256_total

theorem verifies_standard_iff :
    (initial.registerAll [.s256]).Verifies p challenge presented ↔
      Matches p challenge presented := by
  constructor
  · rintro ⟨bound, challengeWf, verifierWf, transform, held, accepted⟩
    refine ⟨⟨Option.join_eq_some_iff.mp bound, ne_nil_of_wellFormed challengeWf⟩, challengeWf,
      verifierWf, ?_⟩
    obtain ⟨selected, rfl⟩ | ⟨selected, rfl⟩ := get?_standard_eq_some_iff.mp held
    · exact .inl ⟨selects_plain_iff.mp (Parameters.selects_iff.mpr selected),
        Transform.plain_accepts_iff.mp accepted⟩
    · exact .inr ⟨selects_s256_iff.mp (Parameters.selects_iff.mpr selected),
        (s256_eq_ok_iff verifierWf).mp (Transform.s256_accepts_iff.mp accepted)⟩
  · rintro ⟨⟨bound, _⟩, challengeWf, verifierWf, matched⟩
    refine ⟨Option.join_eq_some_iff.mpr bound, challengeWf, verifierWf, ?_⟩
    obtain ⟨selected, same⟩ | ⟨selected, hashed⟩ := matched
    · have selected := Parameters.selects_iff.mp (selects_plain_iff.mpr selected)
      exact ⟨.plain, get?_standard_eq_some_iff.mpr (.inl ⟨selected, rfl⟩),
        Transform.plain_accepts_iff.mpr same⟩
    · have selected := Parameters.selects_iff.mp (selects_s256_iff.mpr selected)
      exact ⟨.s256, get?_standard_eq_some_iff.mpr (.inr ⟨selected, rfl⟩),
        Transform.s256_accepts_iff.mpr ((s256_eq_ok_iff verifierWf).mpr hashed)⟩

theorem withoutPkce_iff : WithoutPkce p verifier ↔
    p.Absent Parameters.challengeName ∧ (verifier = none ∨ verifier = some []) := by
  rw [← Parameters.challenge?_eq_none_iff, Parameters.challenge?, present?_eq_none_iff]
  exact ⟨fun ⟨unbound, unsent⟩ => ⟨unbound, unsent⟩, fun ⟨unbound, unsent⟩ => ⟨unbound, unsent⟩⟩

theorem admits_standard_iff : (initial.registerAll [.s256]).Admits p verifier ↔
    (p.Absent Parameters.challengeName ∧ (verifier = none ∨ verifier = some [])) ∨
      ∃ challenge presented, verifier = some presented ∧ Matches p challenge presented := by
  simp only [Admits, withoutPkce_iff, verifies_standard_iff, or_comm]

end Standard

/-- The token step decides as RFC 7636, section 4.6. If no transform fails instead of giving a
verdict, an evaluation ends in exactly one of seven ways, and that is the one that is due: without
PKCE if there is neither challenge nor verifier, with an error if there is just one of them, and
with both the first that applies of an unsupported method, a malformed challenge, a malformed
verifier, and the transform's verdict. Under the methods of RFC 7636 the grant is allowed if
neither value is there, or if they match. -/
theorem evaluation_follows_decision_table (r : Registry) (steady : r.Steady) (p : Parameters)
    (verifier : Option Text) :
    (∃! decision : Decision, (r.evaluate p verifier).result = decision.result) ∧
    (∀ decision : Decision,
      (r.evaluate p verifier).result = decision.result ↔ r.Due p verifier decision) ∧
    (standard.result = .ok r →
      ((∃ outcome, (r.evaluate p verifier).result = .ok outcome ∧ outcome.grantAllowed = true) ↔
        (p.Absent Parameters.challengeName ∧ (verifier = none ∨ verifier = some [])) ∨
          ∃ challenge presented, verifier = some presented ∧ Matches p challenge presented)) := by
  refine ⟨?unique, fun _ => evaluate_eq_iff_due steady, ?allowed⟩
  case unique =>
    obtain ⟨decision, due⟩ := exists_due steady p verifier
    refine ⟨decision, evaluate_of_due due, fun other answered => ?_⟩
    exact Decision.result_injective (answered.symm.trans (evaluate_of_due due))
  case allowed =>
    intro built
    obtain rfl : initial.registerAll [.s256] = r := Except.ok.inj built
    rw [evaluate_allows_iff, admits_standard_iff]

/-- Under the methods of RFC 7636, `S512` is what is wrong with a request whose two values are
malformed as well. -/
theorem evaluation_follows_decision_table_sample :
    let p : Parameters := Mapping.ofList [(Parameters.challengeName, some "short"),
      (Parameters.methodName, some "S512")]
    let r := initial.registerAll [.s256]
    r.Steady ∧ standard.result = .ok r ∧
      r.Due p (some "verifier") (.unsupportedMethod "S512") ∧
      ¬(∃ challenge presented, some ("verifier" : Text) = some presented ∧
        Matches p challenge presented) := by
  intro p r
  obtain ⟨_, decided, allowed⟩ :=
    evaluation_follows_decision_table r steady_standard p (some "verifier")
  refine ⟨steady_standard, rfl, (decided _).mp rfl, fun matched => ?_⟩
  obtain ⟨outcome, granted, _⟩ := (allowed rfl).mpr (.inr matched)
  have refused : (r.evaluate p (some "verifier")).result =
      (Decision.unsupportedMethod "S512").result := rfl
  cases granted.symm.trans refused

end Registry

end ProofKey
