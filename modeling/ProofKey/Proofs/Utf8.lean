import Mathlib.Logic.Function.Basic
import ProofKey.Text.Utf8

/-! # Injectivity of UTF-8

No character's bytes begin those of another one, surrogates included, so two
texts with the same bytes are the same sequence of code points.
-/

namespace ProofKey.Utf8

theorem byte_inj {m n : Nat} (hm : m < 0x100) (hn : n < 0x100)
    (same : UInt8.ofNat m = UInt8.ofNat n) : m = n := by
  have values := congrArg UInt8.toNat same
  simp only [UInt8.toNat_ofNat'] at values
  omega

theorem continuation_inj {m n : Nat} (same : continuation m = continuation n) :
    m % 0x40 = n % 0x40 := by
  have bytes := byte_inj (by omega) (by omega) same
  omega

theorem encodeOne_append_inj {c d : CodePoint} {x y : List UInt8}
    (same : encodeOne c ++ x = encodeOne d ++ y) : c = d ∧ x = y := by
  have hc := c.value_le
  have hd := d.value_le
  simp only [encodeOne] at same
  repeat' split at same
  all_goals
    simp only [List.cons_append, List.nil_append, List.cons.injEq] at same
    have first := byte_inj (by omega) (by omega) same.1
  -- first bytes of forms of different widths lie in different ranges
  all_goals try omega
  · exact ⟨CodePoint.ext first, same.2⟩
  · have second := continuation_inj same.2.1
    exact ⟨CodePoint.ext (by omega), same.2.2⟩
  · have second := continuation_inj same.2.1
    have third := continuation_inj same.2.2.1
    exact ⟨CodePoint.ext (by omega), same.2.2.2⟩
  · have second := continuation_inj same.2.1
    have third := continuation_inj same.2.2.1
    have fourth := continuation_inj same.2.2.2.1
    exact ⟨CodePoint.ext (by omega), same.2.2.2.2⟩

theorem encodeOne_ne_nil (c : CodePoint) : encodeOne c ≠ [] := by
  simp only [encodeOne]
  split
  · simp
  · split
    · simp
    · split <;> simp

theorem encode_injective : Function.Injective encode := by
  intro left
  induction left with
  | nil =>
      intro right same
      cases right with
      | nil => rfl
      | cons d more => simp [encode, encodeOne_ne_nil] at same
  | cons c rest ih =>
      intro right same
      cases right with
      | nil => simp [encode, encodeOne_ne_nil] at same
      | cons d more =>
          simp only [encode, List.flatMap_cons] at same
          obtain ⟨rfl, below⟩ := encodeOne_append_inj same
          rw [ih below]

end ProofKey.Utf8
