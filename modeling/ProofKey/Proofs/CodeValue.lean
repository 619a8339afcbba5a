import ProofKey.CodeValue

/-! # Codes and verifiers in one value

The first space of a code value ends its code. Since a code without a space can
take a verifier behind it, joining and splitting undo each other.
-/

namespace ProofKey

theorem Parameters.value?_insert_self (p : Parameters) (name value : Text) :
    Parameters.value? (p.insert name (some value)) name = some value := by
  simp [value?, Mapping.get?_insert]

namespace CodeValue

variable {code verifier value : Text}

theorem encode_some_eq_ok_iff : encode code (some verifier) = .ok value ↔
    separator ∉ code ∧ Grammar.wellFormed verifier = true ∧
      value = code ++ separator :: verifier := by
  simp only [encode]
  split
  · rename_i spaced
    simp [spaced]
  · rename_i clean
    split
    · rename_i empty
      simp [empty, Grammar.wellFormed, Grammar.minLength]
    · split
      · rename_i wf
        simp [clean, wf, eq_comm]
      · rename_i malformed
        simp [malformed]

theorem decode_joined (clean : separator ∉ code) :
    decode (code ++ separator :: verifier) = (code, some verifier) :=
  Text.cut_append clean verifier

section Refusals

variable {presented : Option Text} {error : OAuthError}

theorem encode_error_iff : (∃ error, encode code presented = .error error) ↔
    ∃ verifier, presented = some verifier ∧
      (separator ∈ code ∨ Grammar.wellFormed verifier = false) := by
  cases presented with
  | none => simp [encode]
  | some verifier =>
      simp only [Option.some.injEq, exists_eq_left']
      by_cases spaced : separator ∈ code
      · simp [encode, spaced]
      · by_cases wf : Grammar.wellFormed verifier = true
        · simp [encode_some_eq_ok_iff.mpr ⟨spaced, wf, rfl⟩, spaced, wf]
        · simp only [encode, spaced, wf, if_false]
          split <;> simp

theorem encode_error (h : encode code presented = .error error) :
    error ∈ [OAuthError.codeWithSpace, .emptyVerifier, .malformedVerifier] := by
  cases presented with
  | none => simp [encode] at h
  | some verifier =>
      simp only [encode] at h
      split at h
      · simp [← Except.error.inj h]
      · split at h
        · simp [← Except.error.inj h]
        · split at h
          · simp at h
          · simp [← Except.error.inj h]

end Refusals

section Requests

variable {p merged : Parameters} {error : OAuthError}

theorem merge_eq (coded : p.value? Parameters.codeName = some code) :
    merge p = (encode code (p.value? Parameters.verifierName)).map fun value =>
      p.insert Parameters.codeName (some value) := by
  have there : p.get? Parameters.codeName = some (some code) := Option.join_eq_some_iff.mp coded
  unfold merge
  cases sent : p.get? Parameters.verifierName with
  | none =>
      simp [there, Parameters.value?, sent, encode, Except.map, Mapping.insert_of_get? there]
  | some presented => simp [there, Parameters.value?, sent]

theorem encode_of_joined (coded : p.value? Parameters.codeName = some code)
    (joined : merge p = .ok merged) :
    ∃ value, encode code (p.value? Parameters.verifierName) = .ok value ∧
      merged.value? Parameters.codeName = some value := by
  rw [merge_eq coded] at joined
  cases encoded : encode code (p.value? Parameters.verifierName) with
  | error error => simp [encoded, Except.map] at joined
  | ok value =>
      simp only [encoded, Except.map, Except.ok.injEq] at joined
      exact ⟨value, rfl, joined ▸ p.value?_insert_self _ value⟩

theorem exists_code_of_joined (coded : p.value? Parameters.codeName = some code)
    (joined : merge p = .ok merged) :
    ∃ value, merged.value? Parameters.codeName = some value := by
  obtain ⟨value, _, carried⟩ := encode_of_joined coded joined
  exact ⟨value, carried⟩

theorem unjoined_iff (coded : p.value? Parameters.codeName = some code) :
    (∃ error, merge p = .error error) ↔
      ∃ verifier, p.value? Parameters.verifierName = some verifier ∧
        (separator ∈ code ∨ Grammar.wellFormed verifier = false) := by
  rw [merge_eq coded, ← encode_error_iff]
  cases encode code (p.value? Parameters.verifierName) <;> simp [Except.map]

theorem unjoined_error (coded : p.value? Parameters.codeName = some code)
    (unjoined : merge p = .error error) :
    error ∈ [OAuthError.codeWithSpace, .emptyVerifier, .malformedVerifier] := by
  rw [merge_eq coded] at unjoined
  cases encoded : encode code (p.value? Parameters.verifierName) with
  | error refusal =>
      have same : refusal = error := by simpa [encoded, Except.map] using unjoined
      exact same ▸ encode_error encoded
  | ok value => simp [encoded, Except.map] at unjoined

end Requests

end CodeValue

end ProofKey
