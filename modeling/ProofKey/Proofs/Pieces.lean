import Mathlib.Data.List.Basic
import ProofKey.Text.Pieces

/-! # What the parts of a text are made of

Cutting, splitting and joining make up no code points: what stands in a part stands
in the text, and what stands in a text stands in a part or between two of them.
-/

namespace ProofKey.Text

variable {mark c : CodePoint} {t between piece : Text} {pieces : List Text}

theorem mem_of_mem_cut (member : c ∈ (cut mark t).1) : c ∈ t := by
  rw [@eq_of_cut mark t]
  split
  · exact member
  · exact List.mem_append_left _ member

theorem mem_of_mem_after_cut (member : c ∈ (cut mark t).2.getD []) : c ∈ t := by
  rw [@eq_of_cut mark t]
  cases found : (cut mark t).2 with
  | none => simp [found] at member
  | some after =>
      rw [found, Option.getD_some] at member
      exact List.mem_append_right _ (List.mem_cons_of_mem mark member)

theorem mem_intercalate_of_mem (among : piece ∈ pieces) (member : c ∈ piece) :
    c ∈ List.intercalate between pieces := by
  induction pieces with
  | nil => simp at among
  | cons first more ih =>
      cases more with
      | nil =>
          obtain rfl := List.mem_singleton.mp among
          simpa using member
      | cons next rest =>
          rw [List.intercalate_cons_cons]
          rcases List.mem_cons.mp among with rfl | later
          · exact List.mem_append_left _ (List.mem_append_left _ member)
          · exact List.mem_append_right _ (ih later)

theorem mem_of_mem_intercalate (member : c ∈ List.intercalate between pieces) :
    c ∈ between ∨ ∃ piece ∈ pieces, c ∈ piece := by
  induction pieces with
  | nil => simp at member
  | cons first more ih =>
      cases more with
      | nil => exact .inr ⟨first, List.mem_cons_self, by simpa using member⟩
      | cons next rest =>
          rw [List.intercalate_cons_cons] at member
          rcases List.mem_append.mp member with member | later
          · rcases List.mem_append.mp member with member | member
            · exact .inr ⟨first, List.mem_cons_self, member⟩
            · exact .inl member
          · obtain inBetween | ⟨piece, among, member⟩ := ih later
            · exact .inl inBetween
            · exact .inr ⟨piece, List.mem_cons_of_mem first among, member⟩

theorem mem_of_mem_splitOn (among : piece ∈ List.splitOn mark t) (member : c ∈ piece) : c ∈ t := by
  have joined : List.intercalate [mark] (List.splitOn mark t) = t := List.intercalate_splitOn mark
  rw [← joined]
  exact mem_intercalate_of_mem among member

theorem not_mem_of_mem_splitOn (among : piece ∈ List.splitOn mark t) : mark ∉ piece := by
  induction t generalizing piece with
  | nil =>
      obtain rfl : piece = [] := by simpa using among
      exact List.not_mem_nil
  | cons d rest ih =>
      rw [List.splitOn_eq_splitOnP, List.splitOnP_cons_eq_if_modifyHead,
        ← List.splitOn_eq_splitOnP] at among
      split at among
      · rcases List.mem_cons.mp among with rfl | later
        · exact List.not_mem_nil
        · exact ih later
      · rename_i other
        obtain ⟨head, more, split⟩ := List.exists_cons_of_ne_nil (List.splitOn_ne_nil mark rest)
        rw [split, List.modifyHead_cons] at among
        rcases List.mem_cons.mp among with rfl | later
        · have here : mark ∉ head := ih (split ▸ List.mem_cons_self)
          have apart : ¬mark = d := fun same => other (by simp [same])
          simp [apart, here]
        · exact ih (split ▸ List.mem_cons_of_mem head later)

end ProofKey.Text
