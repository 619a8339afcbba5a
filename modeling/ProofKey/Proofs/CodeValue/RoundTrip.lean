import ProofKey.Proofs.CodeValue

/-! # Joining and splitting are inverse

A code value is written in one way, and read in one way: the code, and behind its
first space the verifier if there is one. Splitting undoes joining on every code
without spaces, and joining undoes splitting as long as the verifier passes the
grammar. The parts of a split never come back as a code with a space.
-/

namespace ProofKey.CodeValue

/-- A code and a verifier, if there is one, in one value. -/
def written (code : Text) : Option Text → Text
  | none => code
  | some verifier => code ++ separator :: verifier

variable {code value : Text} {presented : Option Text}

/-- Splitting reads what is written with a code that is free of spaces, and every value is
written like that. -/
theorem decode_eq_iff : decode value = (code, presented) ↔
    separator ∉ code ∧ value = written code presented := by
  constructor
  · intro parts
    have clean : separator ∉ (decode value).1 := Text.not_mem_cut value
    have whole : value = written (decode value).1 (decode value).2 := Text.eq_of_cut value
    rw [parts] at clean whole
    exact ⟨clean, whole⟩
  · rintro ⟨clean, rfl⟩
    cases presented with
    | none => exact Text.cut_of_not_mem clean
    | some verifier => exact decode_joined clean

theorem encode_eq_ok_iff : encode code presented = .ok value ↔
    value = written code presented ∧ (presented = none ∨
      ∃ verifier, presented = some verifier ∧ separator ∉ code ∧
        Grammar.wellFormed verifier = true) := by
  cases presented with
  | none => simp [encode, written, @eq_comm _ value]
  | some verifier =>
      simp only [encode_some_eq_ok_iff, written, Option.some.injEq, reduceCtorEq, false_or,
        exists_eq_left']
      constructor
      · rintro ⟨clean, wf, same⟩
        exact ⟨same, clean, wf⟩
      · rintro ⟨same, clean, wf⟩
        exact ⟨clean, wf, same⟩

theorem encode_of_malformed {verifier : Text} (clean : separator ∉ code)
    (malformed : Grammar.wellFormed verifier = false) :
    ∃ error, encode code (some verifier) = .error error ∧
      error.kind = .invalidVerifierSyntax := by
  by_cases empty : verifier = []
  · exact ⟨.emptyVerifier, by simp [encode, clean, empty], rfl⟩
  · exact ⟨.malformedVerifier, by simp [encode, clean, empty, malformed], rfl⟩

/-- Joining and splitting undo each other. Joining succeeds without a verifier, or with a
well-formed one behind a code without spaces. Splitting then finds the very code and verifier, so
that codes without spaces never share a value. Whatever value is split, its code has no space and
its parts are written as the value; they are joined to the value again, unless a malformed
verifier is refused. -/
theorem encode_decode_inverse :
    (∀ code presented value, encode code presented = .ok value ↔
      value = written code presented ∧ (presented = none ∨
        ∃ verifier, presented = some verifier ∧ separator ∉ code ∧
          Grammar.wellFormed verifier = true)) ∧
    (∀ code presented value, separator ∉ code → encode code presented = .ok value →
      decode value = (code, presented)) ∧
    (∀ code other presented another value, separator ∉ code → separator ∉ other →
      encode code presented = .ok value → encode other another = .ok value →
      (code, presented) = (other, another)) ∧
    (∀ value code presented, decode value = (code, presented) →
      separator ∉ code ∧ value = written code presented ∧
      ((presented = none ∨ ∃ verifier, presented = some verifier ∧
          Grammar.wellFormed verifier = true) → encode code presented = .ok value) ∧
      (∀ verifier, presented = some verifier → Grammar.wellFormed verifier = false →
        ∃ error, encode code presented = .error error ∧
          error.kind = .invalidVerifierSyntax)) := by
  have splits {code value : Text} {presented : Option Text} (clean : separator ∉ code)
      (joined : encode code presented = .ok value) : decode value = (code, presented) :=
    decode_eq_iff.mpr ⟨clean, (encode_eq_ok_iff.mp joined).1⟩
  refine ⟨fun _ _ _ => encode_eq_ok_iff, fun _ _ _ => splits, ?apart, ?back⟩
  case apart =>
    intro code other presented another value clean alsoClean here there
    exact (splits clean here).symm.trans (splits alsoClean there)
  case back =>
    intro value code presented parts
    obtain ⟨clean, whole⟩ := decode_eq_iff.mp parts
    refine ⟨clean, whole, ?_, ?_⟩
    · intro fine
      refine encode_eq_ok_iff.mpr ⟨whole, fine.imp_right ?_⟩
      rintro ⟨verifier, sent, wf⟩
      exact ⟨verifier, sent, clean, wf⟩
    · rintro verifier rfl malformed
      exact encode_of_malformed clean malformed

end ProofKey.CodeValue
