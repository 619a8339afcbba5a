import ProofKey.Proofs.TokenEndpoint.Exchange

/-! # A mismatch looks like an unknown code

Someone who holds a code and guesses at its verifier learns nothing from the
refusal, not even that there is such a code. The refused redemption answers as a
store without the code would, and leaves the very store behind that one would
leave. From then on the code is unknown indeed, until it is issued again.
-/

namespace ProofKey.CodeStore

open TokenEndpoint

variable {s : CodeStore} {stored : Parameters} {value : Text} {error : OAuthError}

def without (s : CodeStore) (code : Text) : CodeStore :=
  { s with outstanding := s.outstanding.erase code }

theorem get?_without (s : CodeStore) (code : Text) :
    (s.without code).outstanding.get? code = none := by
  simp [without, Mapping.get?_erase]

theorem settle_invalidGrant {r : Registry} {p : Parameters} {verifier : Option Text}
    (steady : r.Steady) (refused : (settle r p verifier).result = .error (.refused error))
    (kind : error.kind = .invalidGrant) :
    error = .invalidCode ∧ (r.evaluate p verifier).result = .ok (.verified false) := by
  rw [settle_result] at refused
  cases verdict : (r.evaluate p verifier).result with
  | error failure =>
      obtain ⟨other, listed, rfl⟩ := Registry.evaluate_error steady verdict
      obtain rfl : other = error := by simpa [verdict, Except.bind] using refused
      -- none of the five errors of an evaluation is of this kind
      simp only [List.mem_cons, List.not_mem_nil, or_false] at listed
      rcases listed with rfl | rfl | rfl | rfl | rfl <;> cases kind
  | ok outcome =>
      cases outcome with
      | noPkce => simp [verdict, Except.bind, Outcome.grantAllowed] at refused
      | verified matched =>
          cases matched with
          | true => simp [verdict, Except.bind, Outcome.grantAllowed] at refused
          | false =>
              refine ⟨?_, rfl⟩
              simpa [verdict, Except.bind, Outcome.grantAllowed, eq_comm] using refused

/-- A redemption of an outstanding code that is refused as an invalid grant had a verifier that does
not match, and it cannot be told from the redemption of an unknown code. The store without the code
gives the same error, and through the token endpoint the same answer, and both stores are the same
afterwards. Every later redemption of the code gives that error too, whatever verifier comes with
it, until the code is issued again. -/
theorem mismatch_looks_unknown (steady : s.registry.Steady)
    (known : s.outstanding.get? (CodeValue.decode value).1 = some stored)
    (refused : (s.consume value).1.result = .error (.refused error))
    (kind : error.kind = .invalidGrant) :
    let code := (CodeValue.decode value).1
    let next := (s.consume value).2
    (s.registry.evaluate stored (CodeValue.decode value).2).result = .ok (.verified false) ∧
    (∃ other : OAuthError, ((s.without code).consume value).1.result = .error (.refused other) ∧
      other.kind = .invalidGrant ∧ other.response = error.response) ∧
    ((s.without code).consume value).2 = next ∧
    (∀ (body : Parameters → Parameters → Mapping Json) (p merged : Parameters),
      CodeValue.merge p = .ok merged → merged.value? Parameters.codeName = some value →
      (exchange (redeeming body) p s).1.result =
        .ok (Http.json 400 (Http.errorBody error.response)) ∧
      (exchange (redeeming body) p (s.without code)).1.result =
        (exchange (redeeming body) p s).1.result ∧
      (exchange (redeeming body) p (s.without code)).2 = (exchange (redeeming body) p s).2) ∧
    ∀ later, (∀ p report, Record.issued p report ∈ next.history later →
        report.result ≠ .ok code) →
      ∀ again, (CodeValue.decode again).1 = code →
        ((next.after later).consume again).1.result = .error (.refused error) := by
  intro code next
  have burned : s.consume value =
      (settle s.registry stored (CodeValue.decode value).2, s.without code) :=
    consume_of_known known
  obtain ⟨rfl, mismatched⟩ : error = .invalidCode ∧ _ :=
    settle_invalidGrant steady (by rw [← refused, burned]) kind
  have left : next = s.without code := congrArg Prod.snd burned
  have unknown : (s.without code).consume value =
      (⟨.error (.refused .invalidCode), [.unknownCode]⟩, s.without code) :=
    consume_of_unknown (get?_without s code)
  refine ⟨mismatched, ⟨.invalidCode, by rw [unknown], rfl, rfl⟩, by rw [unknown, left],
    ?answer, ?later⟩
  case answer =>
    intro body p merged joined carried
    obtain ⟨here, nextHere⟩ := exchange_redeeming body s joined carried
    obtain ⟨there, nextThere⟩ := exchange_redeeming body (s.without code) joined carried
    rw [here, there, nextHere, nextThere, refused, unknown]
    exact ⟨result_rejection (Text.scalar_ofString _), rfl, left.symm⟩
  case later =>
    intro later unissued again same
    have gone : (next.after later).outstanding.get? (CodeValue.decode again).1 = none := by
      rw [same]
      exact get?_after_of_unissued (left ▸ get?_without s code) unissued
    rw [consume_of_unknown gone]

/-- A guess at a verifier is refused. The right verifier then comes too late, although another code
has been issued in between. -/
theorem mismatch_looks_unknown_sample :
    let p : Parameters := Mapping.ofList [
      (Parameters.challengeName, some Challenge.sampleChallenge)]
    let source (n : Nat) : Except Fault Text := if n = 0 then .ok "first" else .ok "second"
    let s := ((empty Registry.initial source).issue p).2
    let value (verifier : Text) : Text :=
      Text.ofString "first" ++ CodeValue.separator :: verifier
    let next := (s.consume (value Challenge.sampleVerifier)).2
    s.outstanding.contains "first" = true ∧
      (s.consume (value Challenge.sampleVerifier)).1.result = .error (.refused .invalidCode) ∧
      ((s.without "first").consume (value Challenge.sampleVerifier)).2 = next ∧
      ((next.issue p).2.consume (value Challenge.sampleChallenge)).1.result =
        .error (.refused .invalidCode) := by
  intro p source s value next
  have split (verifier : Text) :
      CodeValue.decode (value verifier) = (Text.ofString "first", some verifier) :=
    CodeValue.decode_joined (by decide)
  have known : s.outstanding.get? (CodeValue.decode (value Challenge.sampleVerifier)).1 =
      some p := by
    rw [split]
    decide +kernel
  have refused : (s.consume (value Challenge.sampleVerifier)).1.result =
      .error (.refused .invalidCode) := by
    rfl
  obtain ⟨_, _, same, _, later⟩ :=
    mismatch_looks_unknown Registry.steady_initial known refused rfl
  rw [split] at same later
  refine ⟨by decide +kernel, refused, same, ?_⟩
  have unissued (q : Parameters) (report : Report Text)
      (member : Record.issued q report ∈ next.history [.issue p]) :
      report.result ≠ .ok (Text.ofString "first") := by
    simp only [history, perform, List.mem_singleton, Record.issued.injEq] at member
    rw [member.2]
    intro issued
    have drawn : Text.ofString "second" = "first" := Except.ok.inj (issue_eq_ok_iff.mp issued).2.1
    exact absurd drawn (by decide +kernel)
  have redeemed := later [.issue p] unissued (value Challenge.sampleChallenge) (by rw [split])
  simpa only [after, perform] using redeemed

end ProofKey.CodeStore
