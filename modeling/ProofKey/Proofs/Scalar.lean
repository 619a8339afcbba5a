import ProofKey.Proofs.Pieces
import ProofKey.Text.Run

/-! # Texts without surrogates

Literals and escapes are free of surrogates, and quoting frees any text of them,
since no surrogate is printable. What is put together from texts without surrogates
or cut out of them has none either.
-/

namespace ProofKey

theorem CodePoint.isSurrogate_ofChar (c : Char) : (CodePoint.ofChar c).isSurrogate = false := by
  have valid : c.toNat < 0xD800 ∨ 0xDFFF < c.toNat ∧ c.toNat < 0x110000 := c.valid
  have outside : ¬(0xD800 ≤ c.toNat ∧ c.toNat ≤ 0xDFFF) := by omega
  rw [isSurrogate, value_ofChar, ← Bool.decide_and]
  exact decide_eq_false outside

namespace Text

/-- A text without surrogates, which every encoding of Unicode can carry. -/
def Scalar (t : Text) : Prop := ∀ c ∈ t, c.isSurrogate = false

variable {t left right : Text}

theorem scalar_chars (chars : List Char) : Scalar (chars.map .ofChar) := by
  intro c member
  obtain ⟨char, _, rfl⟩ := List.mem_map.mp member
  exact CodePoint.isSurrogate_ofChar char

theorem scalar_ofString (s : String) : Scalar (ofString s) := scalar_chars s.toList

theorem Scalar.append (leftScalar : left.Scalar) (rightScalar : right.Scalar) :
    Scalar (left ++ right) := by
  intro c member
  rcases List.mem_append.mp member with member | member
  · exact leftScalar c member
  · exact rightScalar c member

theorem Scalar.flatMap {image : CodePoint → Text} (h : ∀ c ∈ t, Scalar (image c)) :
    Scalar (t.flatMap image) := by
  intro c member
  obtain ⟨original, origin, member⟩ := List.mem_flatMap.mp member
  exact h original origin c member

theorem scalar_intercalate {between : Text} {pieces : List Text} (betweenScalar : between.Scalar)
    (h : ∀ piece ∈ pieces, Scalar piece) : Scalar (List.intercalate between pieces) := by
  intro c member
  rcases mem_of_mem_intercalate member with inBetween | ⟨piece, among, member⟩
  · exact betweenScalar c inBetween
  · exact h piece among c member

theorem Scalar.cut {mark : CodePoint} (scalar : t.Scalar) : Scalar (Text.cut mark t).1 :=
  fun c member => scalar c (mem_of_mem_cut member)

theorem Scalar.after_cut {mark : CodePoint} (scalar : t.Scalar) :
    Scalar ((Text.cut mark t).2.getD []) :=
  fun c member => scalar c (mem_of_mem_after_cut member)

theorem Scalar.of_cut {mark : CodePoint} (plain : mark.isSurrogate = false)
    (before : Scalar (Text.cut mark t).1) (after : Scalar ((Text.cut mark t).2.getD [])) :
    t.Scalar := by
  rw [@eq_of_cut mark t]
  cases found : (Text.cut mark t).2 with
  | none => exact before
  | some rest =>
      rw [found, Option.getD_some] at after
      have marked : Scalar (mark :: rest) := List.forall_mem_cons.mpr ⟨plain, after⟩
      exact before.append marked

theorem scalar_splitOn_iff {mark : CodePoint} (plain : mark.isSurrogate = false) :
    (∀ piece ∈ List.splitOn mark t, Scalar piece) ↔ t.Scalar := by
  constructor
  · intro pieces
    have joined : List.intercalate [mark] (List.splitOn mark t) = t :=
      List.intercalate_splitOn mark
    rw [← joined]
    exact scalar_intercalate (by simpa [Scalar] using plain) pieces
  · exact fun scalar piece among c member => scalar c (mem_of_mem_splitOn among member)

theorem surrogates?_eq_none_iff : Run.surrogates? t = none ↔ t.Scalar := by
  simp [Run.surrogates?, Run.firstWithout?_eq_none_iff, Scalar]

theorem scalar_hex (width n : Nat) : Scalar (hex width n) := scalar_chars _

theorem scalar_escapeByNumber (c : CodePoint) : Scalar (escapeByNumber c) := by
  unfold escapeByNumber
  split
  · exact (scalar_ofString _).append (scalar_hex _ _)
  · split
    · exact (scalar_ofString _).append (scalar_hex _ _)
    · exact (scalar_ofString _).append (scalar_hex _ _)

theorem not_isPrintable_of_isSurrogate {c : CodePoint} (surrogate : c.isSurrogate = true) :
    isPrintable c = false := by
  simp only [CodePoint.isSurrogate, Bool.and_eq_true, decide_eq_true_eq] at surrogate
  have beyond : c.isAscii = false := by
    simp only [CodePoint.isAscii, decide_eq_false_iff_not]
    omega
  have excluded : c.inRanges unprintableRanges = true :=
    List.any_eq_true.mpr ⟨(0xD7FC, 0xF8FF), by decide, by
      simp only [Bool.and_eq_true, decide_eq_true_eq]
      omega⟩
  simp [isPrintable, beyond, excluded]

theorem isSurrogate_quoteMark (t : Text) : (quoteMark t).isSurrogate = false := by
  simp only [quoteMark]
  split <;> exact CodePoint.isSurrogate_ofChar _

theorem scalar_escapeQuoted {mark c : CodePoint} (markScalar : mark.isSurrogate = false) :
    Scalar (escapeQuoted mark c) := by
  unfold escapeQuoted
  split
  · rename_i special
    have plain : c.isSurrogate = false := by
      rcases special with rfl | rfl
      · exact markScalar
      · exact CodePoint.isSurrogate_ofChar _
    simp [Scalar, plain, CodePoint.isSurrogate_ofChar]
  · repeat' split
    · exact scalar_ofString _
    · exact scalar_ofString _
    · exact scalar_ofString _
    · rename_i printable
      intro d member
      obtain rfl := List.mem_singleton.mp member
      cases surrogate : d.isSurrogate with
      | false => rfl
      | true => simp [not_isPrintable_of_isSurrogate surrogate] at printable
    · exact scalar_escapeByNumber c

theorem scalar_quoted (t : Text) : Scalar (quoted t) := by
  have markScalar := isSurrogate_quoteMark t
  have mark : Scalar [quoteMark t] := by simpa [Scalar] using markScalar
  exact (mark.append (Scalar.flatMap fun c _ => scalar_escapeQuoted markScalar)).append mark

end Text

end ProofKey
