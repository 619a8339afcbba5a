import ProofKey.Text

/-!
# Sorted lists of texts

Ids are listed in increasing order by code point, each once, whatever the order in which they
came.
-/

namespace ProofKey.Text

def sorted (ts : List Text) : List Text := ts.eraseDups.mergeSort

theorem mem_sorted {t : Text} {ts : List Text} : t ∈ sorted ts ↔ t ∈ ts := by
  rw [sorted, List.mem_mergeSort, List.mem_eraseDups]

theorem nodup_eraseDups (ts : List Text) : ts.eraseDups.Nodup := by
  match ts with
  | [] => simp
  | t :: rest =>
      rw [List.eraseDups_cons, List.nodup_cons]
      exact ⟨by simp [List.mem_eraseDups], nodup_eraseDups _⟩
termination_by ts.length
decreasing_by exact Nat.lt_succ_of_le (List.length_filter_le _ _)

theorem pairwise_sorted (ts : List Text) : (sorted ts).Pairwise (· < ·) := by
  have weakly : (sorted ts).Pairwise (· ≤ ·) := by
    refine (List.pairwise_mergeSort ?_ ?_ ts.eraseDups).imp of_decide_eq_true
    · intro a b c below above
      exact decide_eq_true (List.le_trans (of_decide_eq_true below) (of_decide_eq_true above))
    · intro a b
      simpa using List.le_total a b
  have apart : (sorted ts).Nodup :=
    (List.mergeSort_perm ts.eraseDups _).nodup_iff.mpr (nodup_eraseDups ts)
  exact (weakly.and apart).imp fun ⟨below, other⟩ => Std.lt_of_le_of_ne below other

end ProofKey.Text
