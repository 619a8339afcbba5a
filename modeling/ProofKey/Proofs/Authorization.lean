import ProofKey.Authorization

/-! # What the authorization step accepts

A request passes without a challenge, or with a well-formed challenge under a
registered method; the binding that it gets is just that.
-/

namespace ProofKey.Registry

variable {r : Registry} {p : Parameters} {binding : Option Binding}

theorem authorize_eq_ok_iff : (r.authorize p).result = .ok binding ↔
    (p.challenge? = none ∧ binding = none) ∨
      ∃ challenge, p.challenge? = some challenge ∧ Grammar.wellFormed challenge = true ∧
        r.supports p.methodId = true ∧ binding = some ⟨challenge, p.methodId⟩ := by
  unfold authorize
  cases bound : p.challenge? with
  | none => simp [Report.ok, @eq_comm _ none binding]
  | some challenge =>
      by_cases wf : Grammar.wellFormed challenge = true
      · by_cases supported : r.supports p.methodId = true
        · simp [wf, supported, @eq_comm _ (some _) binding]
        · simp [wf, supported, Report.refuse]
      · simp [wf, Report.refuse]

theorem authorize_error_iff {failure : Failure} : (r.authorize p).result = .error failure ↔
    ∃ challenge, p.challenge? = some challenge ∧
      ((Grammar.wellFormed challenge = false ∧ failure = .refused .malformedChallenge) ∨
        (Grammar.wellFormed challenge = true ∧ r.supports p.methodId = false ∧
          failure = .refused (.methodNotOffered p.methodId r.sortedIds))) := by
  unfold authorize
  cases bound : p.challenge? with
  | none => simp [Report.ok]
  | some challenge =>
      by_cases wf : Grammar.wellFormed challenge = true
      · by_cases supported : r.supports p.methodId = true
        · simp [wf, supported]
        · simp [wf, supported, Report.refuse, @eq_comm _ failure]
      · simp [wf, Report.refuse, @eq_comm _ failure]

/-- Registering may replace a transform but takes no method away. -/
theorem supports_register (registration : Registration) {methodId : Text}
    (supported : r.supports methodId = true) :
    (r.register registration).supports methodId = true := by
  rw [supports_eq_isSome] at supported ⊢
  rw [get?_register]
  split
  · rfl
  · exact supported

theorem authorize_register (registration : Registration)
    (accepted : (r.authorize p).result = .ok binding) :
    ((r.register registration).authorize p).result = .ok binding := by
  refine authorize_eq_ok_iff.mpr ((authorize_eq_ok_iff.mp accepted).imp_right ?_)
  rintro ⟨challenge, bound, wf, supported, rfl⟩
  exact ⟨challenge, bound, wf, supports_register registration supported, rfl⟩

end ProofKey.Registry
