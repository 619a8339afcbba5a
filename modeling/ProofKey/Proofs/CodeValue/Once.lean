import ProofKey.Proofs.CodeValue.RoundTrip

/-! # A verifier is joined once

Joining changes the code of a request and nothing else; the verifier stays where it
is. So joining again what is joined finds a space in the code next to a verifier, and
is refused. However often requests are handed through, a code carries one verifier.
-/

namespace ProofKey

/-- A request brings both a code and a verifier, and each has a value. -/
structure Parameters.Sends (p : Parameters) (code verifier : Text) : Prop where
  code : p.value? Parameters.codeName = some code
  verifier : p.value? Parameters.verifierName = some verifier

theorem Grammar.separator_not_mem {verifier : Text} (wf : Grammar.wellFormed verifier = true) :
    CodeValue.separator ∉ verifier := by
  intro member
  have unreserved := (Grammar.wellFormed_iff.mp wf).2.2 _ member
  simp [CodeValue.separator, Grammar.isUnreserved_space] at unreserved

namespace CodeValue

variable {p merged again : Parameters} {code verifier name : Text} {kind : ErrorKind}

/-- What a verifier is refused for behind a code: the code's space comes first. -/
theorem exists_encode_some_error_iff :
    (∃ error, encode code (some verifier) = .error error ∧ error.kind = kind) ↔
      (separator ∈ code ∧ kind = .malformedCode) ∨
      (separator ∉ code ∧ Grammar.wellFormed verifier = false ∧
        kind = .invalidVerifierSyntax) := by
  by_cases spaced : separator ∈ code
  · simp [encode, spaced, OAuthError.codeWithSpace, @eq_comm _ kind]
  · cases wf : Grammar.wellFormed verifier with
    | true => simp [encode_some_eq_ok_iff.mpr ⟨spaced, wf, rfl⟩, spaced]
    | false =>
        obtain ⟨error, refused, same⟩ := encode_of_malformed spaced wf
        simp [refused, same, spaced, @eq_comm _ kind]

section Joining

theorem merge_of_not_sends (lacking : ¬∃ code verifier, p.Sends code verifier) :
    merge p = .ok p := by
  cases coded : p.value? Parameters.codeName with
  | none =>
      unfold merge
      split
      · rename_i code presented there sent
        simp [Parameters.value?, there] at coded
      · rfl
  | some code =>
      cases sent : p.value? Parameters.verifierName with
      | none =>
          have there : p.get? Parameters.codeName = some (some code) :=
            Option.join_eq_some_iff.mp coded
          rw [merge_eq coded, sent, encode, Except.map, Mapping.insert_of_get? there]
      | some verifier => exact absurd ⟨code, verifier, coded, sent⟩ lacking

theorem merge_of_sends (sends : p.Sends code verifier) :
    merge p = (encode code (some verifier)).map fun value =>
      p.insert Parameters.codeName (some value) := by
  rw [merge_eq sends.code, sends.verifier]

theorem exists_merge_error_iff : (∃ error, merge p = .error error ∧ error.kind = kind) ↔
    ∃ code verifier, p.Sends code verifier ∧
      ((separator ∈ code ∧ kind = .malformedCode) ∨
        (separator ∉ code ∧ Grammar.wellFormed verifier = false ∧
          kind = .invalidVerifierSyntax)) := by
  simp only [← exists_encode_some_error_iff]
  constructor
  · rintro ⟨error, failed, same⟩
    by_cases both : ∃ code verifier, p.Sends code verifier
    · obtain ⟨code, verifier, sends⟩ := both
      rw [merge_of_sends sends] at failed
      cases joined : encode code (some verifier) with
      | ok value => simp [joined, Except.map] at failed
      | error refusal =>
          obtain rfl : refusal = error := by simpa [joined, Except.map] using failed
          exact ⟨code, verifier, sends, refusal, joined, same⟩
    · simp [merge_of_not_sends both] at failed
  · rintro ⟨code, verifier, sends, error, refused, same⟩
    refine ⟨error, ?_, same⟩
    rw [merge_of_sends sends, refused, Except.map]

/-- All that joining comes to if it does not fail. -/
theorem merge_cases (joined : merge p = .ok merged) :
    ((¬∃ code verifier, p.Sends code verifier) ∧ merged = p) ∨
    ∃ code verifier, p.Sends code verifier ∧ separator ∉ code ∧
      Grammar.wellFormed verifier = true ∧
      merged = p.insert Parameters.codeName (some (written code (some verifier))) := by
  by_cases both : ∃ code verifier, p.Sends code verifier
  · obtain ⟨code, verifier, sends⟩ := both
    rw [merge_of_sends sends] at joined
    cases encoded : encode code (some verifier) with
    | error refusal => simp [encoded, Except.map] at joined
    | ok value =>
        obtain ⟨clean, wf, rfl⟩ := encode_some_eq_ok_iff.mp encoded
        rw [encoded] at joined
        exact .inr ⟨code, verifier, sends, clean, wf, (Except.ok.inj joined).symm⟩
  · rw [merge_of_not_sends both] at joined
    exact .inl ⟨both, (Except.ok.inj joined).symm⟩

theorem keys_of_joined (joined : merge p = .ok merged) : merged.keys = p.keys := by
  obtain ⟨_, rfl⟩ | ⟨code, verifier, sends, _, _, rfl⟩ := merge_cases joined
  · rfl
  · have held : Parameters.codeName ∈ p.keys :=
      Mapping.mem_keys_iff.mpr ⟨some code, Option.join_eq_some_iff.mp sends.code⟩
    rw [Mapping.keys_insert, if_pos held]

theorem get?_of_joined (joined : merge p = .ok merged) (other : name ≠ Parameters.codeName) :
    merged.get? name = p.get? name := by
  obtain ⟨_, rfl⟩ | ⟨_, _, _, _, _, rfl⟩ := merge_cases joined
  · rfl
  · rw [Mapping.get?_insert, if_neg other.symm]

theorem value?_of_joined (joined : merge p = .ok merged) (sends : p.Sends code verifier) :
    merged.value? Parameters.codeName = some (written code (some verifier)) := by
  obtain ⟨lacking, _⟩ | ⟨_, _, sent, _, _, rfl⟩ := merge_cases joined
  · exact absurd ⟨code, verifier, sends⟩ lacking
  · obtain rfl := Option.some.inj (sends.code.symm.trans sent.code)
    obtain rfl := Option.some.inj (sends.verifier.symm.trans sent.verifier)
    exact p.value?_insert_self _ _

end Joining

section JoiningAgain

theorem count_separator_written (clean : separator ∉ code)
    (wf : Grammar.wellFormed verifier = true) :
    (written code (some verifier)).count separator = 1 := by
  have before : code.count separator = 0 := List.count_eq_zero.mpr clean
  have behind : verifier.count separator = 0 :=
    List.count_eq_zero.mpr (Grammar.separator_not_mem wf)
  rw [written, List.count_append, List.count_cons_self, before, behind]

theorem written_ne_code : written code (some verifier) ≠ code := by
  simp [written]

/-- What is joined still brings its verifier, and its code has a space now. -/
theorem merge_joined (sends : p.Sends code verifier) :
    merge (p.insert Parameters.codeName (some (written code (some verifier)))) =
      .error .codeWithSpace := by
  have apart : Parameters.codeName ≠ Parameters.verifierName := by decide
  have again : Parameters.Sends (p.insert Parameters.codeName (some (written code (some verifier))))
      (written code (some verifier)) verifier := by
    refine ⟨p.value?_insert_self _ _, ?_⟩
    rw [Parameters.value?, Mapping.get?_insert, if_neg apart]
    exact sends.verifier
  have spaced : separator ∈ written code (some verifier) := by simp [written]
  rw [merge_of_sends again, encode, if_pos spaced, Except.map]

theorem merge_again (joined : merge p = .ok merged) :
    (merged.get? Parameters.codeName ≠ p.get? Parameters.codeName ∧
      merge merged = .error .codeWithSpace) ∨
    (merged = p ∧ merge merged = .ok merged) := by
  obtain ⟨_, rfl⟩ | ⟨code, verifier, sends, _, _, rfl⟩ := merge_cases joined
  · exact .inr ⟨rfl, joined⟩
  · refine .inl ⟨?_, merge_joined sends⟩
    have held : p.get? Parameters.codeName = some (some code) :=
      Option.join_eq_some_iff.mp sends.code
    simp [Mapping.get?_insert, held, written_ne_code]

/-- Joins one time after the other, as when a request is handed through some endpoints in turn. -/
def mergeTimes : Nat → Parameters → Except OAuthError Parameters
  | 0, p => .ok p
  | n + 1, p => (merge p).bind (mergeTimes n)

/-- The first time decides: later ones change nothing, if they are not refused. -/
theorem eq_of_mergeTimes {n : Nat} (joined : merge p = .ok merged)
    (more : mergeTimes n merged = .ok again) : again = merged := by
  induction n with
  | zero => exact (Except.ok.inj more).symm
  | succ n ih =>
      obtain ⟨_, refused⟩ | ⟨_, same⟩ := merge_again joined
      · simp [mergeTimes, refused, Except.bind] at more
      · rw [mergeTimes, same] at more
        exact ih more

end JoiningAgain

/-- Joining fails if a code and a verifier are there and the code has a space, whatever the
verifier, or else the verifier is malformed, the empty one included. Otherwise the keys and their
order stay, and so do all values but that of the code, which becomes what the code and the verifier
encode to if both are there. Joining again is refused for the space if the code was changed, and
else gives the same; a code that took a verifier has one space, and no number of further times
gives it another verifier. -/
theorem verifier_joined_once (p : Parameters) :
    (∀ kind, (∃ error, merge p = .error error ∧ error.kind = kind) ↔
      ∃ code verifier, p.Sends code verifier ∧
        ((separator ∈ code ∧ kind = .malformedCode) ∨
          (separator ∉ code ∧ Grammar.wellFormed verifier = false ∧
            kind = .invalidVerifierSyntax))) ∧
    ∀ merged, merge p = .ok merged →
      merged.keys = p.keys ∧
      (∀ name, name ≠ Parameters.codeName → merged.get? name = p.get? name) ∧
      (∀ code presented, p.get? Parameters.codeName = some (some code) →
        p.get? Parameters.verifierName = some presented →
        ∃ value, encode code presented = .ok value ∧
          merged.get? Parameters.codeName = some (some value)) ∧
      (p.get? Parameters.codeName = none ∨ p.get? Parameters.verifierName = none →
        merged = p) ∧
      (merged.get? Parameters.codeName ≠ p.get? Parameters.codeName →
        ∃ error, merge merged = .error error ∧ error.kind = .malformedCode) ∧
      (merged.get? Parameters.codeName = p.get? Parameters.codeName →
        merge merged = .ok merged) ∧
      (∀ code verifier, p.Sends code verifier →
        ∃ value, merged.value? Parameters.codeName = some value ∧
          value.count separator = 1 ∧ decode value = (code, some verifier)) ∧
      ∀ n again, mergeTimes n merged = .ok again → again = merged := by
  refine ⟨fun _ => exists_merge_error_iff, fun merged joined => ?_⟩
  refine ⟨keys_of_joined joined, fun _ => get?_of_joined joined, ?encoded, ?kept, ?changed,
    ?unchanged, ?single, fun _ _ => eq_of_mergeTimes joined⟩
  case encoded =>
    intro code presented held sent
    have coded : p.value? Parameters.codeName = some code := Option.join_eq_some_iff.mpr held
    have given : p.value? Parameters.verifierName = presented := by
      rw [Parameters.value?, sent, Option.join_some]
    obtain ⟨value, encoded, carried⟩ := encode_of_joined coded joined
    exact ⟨value, given ▸ encoded, Option.join_eq_some_iff.mp carried⟩
  case kept =>
    intro missing
    obtain ⟨_, same⟩ | ⟨_, _, sends, _⟩ := merge_cases joined
    · exact same
    · obtain ⟨coded, sent⟩ := sends
      rcases missing with missing | missing
      · simp [Parameters.value?, missing] at coded
      · simp [Parameters.value?, missing] at sent
  case changed =>
    intro changed
    obtain ⟨_, refused⟩ | ⟨rfl, _⟩ := merge_again joined
    · exact ⟨_, refused, rfl⟩
    · exact absurd rfl changed
  case unchanged =>
    intro same
    obtain ⟨changed, _⟩ | ⟨_, again⟩ := merge_again joined
    · exact absurd same changed
    · exact again
  case single =>
    intro code verifier sends
    obtain ⟨lacking, _⟩ | ⟨_, _, sent, clean, wf, _⟩ := merge_cases joined
    · exact absurd ⟨code, verifier, sends⟩ lacking
    · obtain rfl := Option.some.inj (sends.code.symm.trans sent.code)
      obtain rfl := Option.some.inj (sends.verifier.symm.trans sent.verifier)
      exact ⟨_, value?_of_joined joined sends, count_separator_written clean wf,
        decode_joined clean⟩

-- a verifier without a value is joined to nothing, not even to a code with a space
example :
    let p : Parameters := Mapping.ofList [(Parameters.verifierName, none),
      (Parameters.codeName, some "a b")]
    merge p = .ok p := rfl

end CodeValue

end ProofKey
