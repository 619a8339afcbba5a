import ProofKey.Json
import ProofKey.Proofs.Scalar

/-! # JSON that can be sent

A JSON text is free of surrogates if the texts in it are: JSON escapes are chosen by
the character, and other characters stay. So all that has a form in JSON and is made
of such texts can be written and sent.
-/

namespace ProofKey.Json

variable {t name written : Text} {pieces : List Text}

theorem scalar_escapeOne {c : CodePoint} (h : c.isSurrogate = false) :
    Text.Scalar (escapeOne c) := by
  have self : Text.Scalar [c] := by simpa [Text.Scalar] using h
  unfold escapeOne
  repeat' split
  all_goals
    first
      | exact self
      | exact Text.scalar_ofString _
      | exact (Text.scalar_ofString _).append (Text.scalar_hex _ _)

theorem scalar_string (h : t.Scalar) : Text.Scalar (string t) :=
  ((Text.scalar_ofString _).append (Text.Scalar.flatMap fun c member =>
    scalar_escapeOne (h c member))).append (Text.scalar_ofString _)

theorem scalar_member (nameScalar : name.Scalar) (h : written.Scalar) :
    Text.Scalar (member name written) :=
  ((scalar_string nameScalar).append (Text.scalar_ofString _)).append h

theorem scalar_enclose (opening closing : String) (h : ∀ piece ∈ pieces, Text.Scalar piece) :
    Text.Scalar (enclose opening closing pieces) :=
  ((Text.scalar_ofString opening).append
    (Text.scalar_intercalate (Text.scalar_ofString _) h)).append (Text.scalar_ofString closing)

theorem scalar_braces (h : ∀ piece ∈ pieces, Text.Scalar piece) : Text.Scalar (braces pieces) :=
  scalar_enclose _ _ h

/-- The value has a form in JSON, and no text in it has surrogates. -/
inductive Sendable : Json → Prop where
  | null : Sendable .null
  | boolean (b : Bool) : Sendable (.boolean b)
  | number {written : Text} : written.Scalar → Sendable (.number written)
  | text {t : Text} : t.Scalar → Sendable (.text t)
  | list {items : List Json} : (∀ item ∈ items, Sendable item) → Sendable (.list items)
  | object {fields : List (Text × Json)} : (∀ field ∈ fields, field.1.Scalar) →
      (∀ field ∈ fields, Sendable field.2) → Sendable (.object fields)

/-- The value can be written, and what is written has no surrogates. -/
def Writable (value : Json) : Prop := ∃ written, write value = .ok written ∧ written.Scalar

theorem writeItems_of_writable {items : List Json} (h : ∀ item ∈ items, Writable item) :
    ∃ pieces, writeItems items = .ok pieces ∧ ∀ piece ∈ pieces, piece.Scalar := by
  induction items with
  | nil => exact ⟨[], rfl, by simp⟩
  | cons item rest ih =>
      obtain ⟨here, later⟩ := List.forall_mem_cons.mp h
      obtain ⟨written, first, scalar⟩ := here
      obtain ⟨pieces, more, scalars⟩ := ih later
      refine ⟨written :: pieces, ?_, List.forall_mem_cons.mpr ⟨scalar, scalars⟩⟩
      rw [writeItems, first, more]
      rfl

theorem writeFields_of_writable {fields : List (Text × Json)}
    (names : ∀ field ∈ fields, field.1.Scalar) (h : ∀ field ∈ fields, Writable field.2) :
    ∃ pieces, writeFields fields = .ok pieces ∧ ∀ piece ∈ pieces, piece.Scalar := by
  induction fields with
  | nil => exact ⟨[], rfl, by simp⟩
  | cons field rest ih =>
      obtain ⟨name, value⟩ := field
      obtain ⟨nameScalar, laterNames⟩ := List.forall_mem_cons.mp names
      obtain ⟨⟨written, first, scalar⟩, later⟩ := List.forall_mem_cons.mp h
      obtain ⟨pieces, more, scalars⟩ := ih laterNames later
      have here : Text.Scalar (member name written) := scalar_member nameScalar scalar
      refine ⟨member name written :: pieces, ?_, List.forall_mem_cons.mpr ⟨here, scalars⟩⟩
      rw [writeFields, first, more]
      rfl

theorem Sendable.writable {value : Json} (sendable : value.Sendable) : value.Writable := by
  induction sendable with
  | null => exact ⟨_, rfl, Text.scalar_ofString _⟩
  | boolean b => cases b <;> exact ⟨_, rfl, Text.scalar_ofString _⟩
  | number scalar => exact ⟨_, rfl, scalar⟩
  | text scalar => exact ⟨_, rfl, scalar_string scalar⟩
  | @list items _ ih =>
      obtain ⟨pieces, written, scalars⟩ := writeItems_of_writable ih
      exact ⟨_, by rw [write, written]; rfl, scalar_enclose _ _ scalars⟩
  | @object fields names _ ih =>
      obtain ⟨pieces, written, scalars⟩ := writeFields_of_writable names ih
      exact ⟨_, by rw [write, written]; rfl, scalar_braces scalars⟩

end ProofKey.Json
