import ProofKey.Proofs.Percent
import ProofKey.Query

/-! # Query strings and back

Escapes hide the marks of a query, so every list of entries is read back from the
query that is written for it: names and values may be empty, hold marks, and come
any number of times. Such a query can stand in a URI, since it has neither of the
marks that a URI sets off its parts with.
-/

namespace ProofKey.Query

def Scalar (entries : List (Text × Text)) : Prop :=
  ∀ entry ∈ entries, entry.1.Scalar ∧ entry.2.Scalar

section Alphabet

variable {c : CodePoint} {t : Text}

/-- The marks that end a name, a value, a query or the path before it, and the one that is read as
a space. -/
def marks : Text := "&=+?#"

theorem not_mem_escaped (mark : c ∈ marks) : c ∉ Percent.encode t := by
  intro member
  have reserved : ∀ d ∈ marks, Grammar.isUnreserved d = false ∧ d ≠ CodePoint.ofChar '%' := by
    decide
  obtain ⟨escaped, other⟩ := reserved c mark
  rcases Percent.mem_encode member with unreserved | same
  · simp [escaped] at unreserved
  · exact other same

end Alphabet

section RoundTrip

variable {entry : Text × Text} {entries : List (Text × Text)} {t : Text}

theorem decodePart_encode (scalar : t.Scalar) : decodePart (Percent.encode t) = t := by
  have untouched : ∀ c ∈ Percent.encode t,
      (if c = CodePoint.ofChar '+' then CodePoint.ofChar ' ' else c) = c := by
    intro c member
    have other : c ≠ CodePoint.ofChar '+' := by
      rintro rfl
      exact not_mem_escaped (by decide) member
    rw [if_neg other]
  rw [decodePart, List.map_congr_left untouched, List.map_id', Percent.decode_encode scalar]

theorem encodePiece_eq (entry : Text × Text) : encodePiece entry =
    Percent.encode entry.1 ++ CodePoint.ofChar '=' :: Percent.encode entry.2 := by
  rw [encodePiece, List.append_assoc]
  rfl

theorem decodePiece_encodePiece (scalar : entry.1.Scalar ∧ entry.2.Scalar) :
    decodePiece (encodePiece entry) = entry := by
  have first : (encodePiece entry).cut '=' =
      (Percent.encode entry.1, some (Percent.encode entry.2)) := by
    rw [encodePiece_eq]
    exact Text.cut_append (not_mem_escaped (by decide)) _
  simp only [decodePiece, first, Option.getD_some, decodePart_encode scalar.1,
    decodePart_encode scalar.2]

theorem not_mem_encodePiece {c : CodePoint} (mark : c ∈ marks) (other : c ≠ CodePoint.ofChar '=') :
    c ∉ encodePiece entry := by
  rw [encodePiece_eq, List.mem_append, List.mem_cons]
  rintro (name | same | value)
  · exact not_mem_escaped mark name
  · exact other same
  · exact not_mem_escaped mark value

theorem encodePiece_ne_nil (entry : Text × Text) : encodePiece entry ≠ [] := by
  simp [encodePiece_eq]

theorem decode_encode (scalar : Scalar entries) : decode (encode entries) = entries := by
  cases entries with
  | nil => rfl
  | cons first more =>
      have clean : ∀ piece ∈ (first :: more).map encodePiece, CodePoint.ofChar '&' ∉ piece := by
        intro piece among
        obtain ⟨entry, _, rfl⟩ := List.mem_map.mp among
        exact not_mem_encodePiece (by decide) (by decide)
      have pieces : List.splitOn (CodePoint.ofChar '&') (encode (first :: more)) =
          (first :: more).map encodePiece :=
        List.splitOn_intercalate _ clean (by simp)
      have kept : ((first :: more).map encodePiece).filter (fun piece => !piece.isEmpty) =
          (first :: more).map encodePiece := by
        rw [List.filter_eq_self]
        intro piece among
        obtain ⟨entry, _, rfl⟩ := List.mem_map.mp among
        simp [encodePiece_ne_nil]
      have back : ∀ entry ∈ first :: more, (decodePiece ∘ encodePiece) entry = entry :=
        fun entry among => decodePiece_encodePiece (scalar entry among)
      rw [decode, pieces, kept, List.map_map, List.map_congr_left back, List.map_id']

/-- A written query has no marks but those between its entries and within them. -/
theorem not_mem_encode {c : CodePoint} (mark : c ∈ marks) (outer : c ≠ CodePoint.ofChar '=')
    (between : c ≠ CodePoint.ofChar '&') : c ∉ encode entries := by
  intro member
  rcases Text.mem_of_mem_intercalate member with separating | ⟨piece, among, member⟩
  · exact between (List.mem_singleton.mp separating)
  · obtain ⟨entry, _, rfl⟩ := List.mem_map.mp among
    exact not_mem_encodePiece mark outer member

theorem mem_encode {c : CodePoint} (member : c ∈ encode entries) :
    (Grammar.isUnreserved c = true ∨ c = CodePoint.ofChar '%') ∨
      c = CodePoint.ofChar '&' ∨ c = CodePoint.ofChar '=' := by
  rcases Text.mem_of_mem_intercalate member with separating | ⟨piece, among, member⟩
  · exact .inr (.inl (List.mem_singleton.mp separating))
  · obtain ⟨entry, _, rfl⟩ := List.mem_map.mp among
    rw [encodePiece_eq, List.mem_append, List.mem_cons] at member
    rcases member with name | same | value
    · exact .inl (Percent.mem_encode name)
    · exact .inr (.inr same)
    · exact .inl (Percent.mem_encode value)

theorem encode_ne_nil (nonempty : entries ≠ []) : encode entries ≠ [] := by
  obtain ⟨entry, member⟩ := List.exists_mem_of_ne_nil entries nonempty
  have inner : CodePoint.ofChar '=' ∈ encodePiece entry := by simp [encodePiece_eq]
  exact List.ne_nil_of_mem (Text.mem_intercalate_of_mem (List.mem_map_of_mem member) inner)

end RoundTrip

section Reading

variable {t piece : Text} {entries : List (Text × Text)}

theorem scalar_decodePart_iff : Text.Scalar (decodePart t) ↔ t.Scalar := by
  have same : ∀ c : CodePoint,
      (if c = CodePoint.ofChar '+' then CodePoint.ofChar ' ' else c).isSurrogate =
        c.isSurrogate := by
    intro c
    split
    · rename_i plus
      rw [plus, CodePoint.isSurrogate_ofChar, CodePoint.isSurrogate_ofChar]
    · rfl
  rw [decodePart, Percent.scalar_decode_iff]
  simp only [Text.Scalar, List.forall_mem_map, same]

theorem scalar_decodePiece_iff :
    (decodePiece piece).1.Scalar ∧ (decodePiece piece).2.Scalar ↔ piece.Scalar := by
  simp only [decodePiece, scalar_decodePart_iff]
  exact ⟨fun ⟨name, value⟩ => .of_cut (CodePoint.isSurrogate_ofChar '=') name value,
    fun scalar => ⟨scalar.cut, scalar.after_cut⟩⟩

theorem scalar_decode_iff : Scalar (decode t) ↔ t.Scalar := by
  -- the pieces that are not read are empty, and so are no matter
  have pieces : Scalar (decode t) ↔
      ∀ piece ∈ List.splitOn (CodePoint.ofChar '&') t, Text.Scalar piece := by
    simp only [Scalar, decode, List.forall_mem_map, List.mem_filter, scalar_decodePiece_iff]
    refine forall_congr' fun piece => ?_
    cases piece <;> simp [Text.Scalar]
  rw [pieces, Text.scalar_splitOn_iff (CodePoint.isSurrogate_ofChar '&')]

theorem surrogates?_eq_none_iff : surrogates? entries = none ↔ Scalar entries := by
  simp only [surrogates?, List.findSome?_eq_none_iff, Option.or_eq_none_iff,
    Text.surrogates?_eq_none_iff, Scalar]

end Reading

end ProofKey.Query
