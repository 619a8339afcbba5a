import ProofKey.Text

/-!
# Cutting texts at marks

A text is cut once, at the first mark. Nothing but the mark is lost: the parts and the mark between
them give the text back, and the first part holds no mark.
-/

namespace ProofKey.Text

/-- The rest after `mark`, if a text starts with it. -/
def afterMark? (mark : CodePoint) : Text → Option Text
  | [] => none
  | c :: rest => if c = mark then some rest else none

def afterWord? : Text → Text → Option Text
  | [], t => some t
  | _ :: _, [] => none
  | w :: word, c :: rest => if w = c then afterWord? word rest else none

/-- All before the first `mark`, and, if there is one, all after it. -/
def cut (mark : CodePoint) : Text → Text × Option Text
  | [] => ([], none)
  | c :: rest =>
      if c = mark then ([], some rest)
      else
        let (head, tail) := cut mark rest
        (c :: head, tail)

/-- All after the last `mark`; a text without one stays whole. -/
def afterLast (mark : CodePoint) (t : Text) : Text := (cut mark t.reverse).1.reverse

variable {mark : CodePoint}

theorem length_of_afterMark {t rest : Text} (h : afterMark? mark t = some rest) :
    rest.length < t.length := by
  cases t with
  | nil => simp [afterMark?] at h
  | cons c more =>
      simp only [afterMark?] at h
      split at h <;> simp_all

theorem length_of_afterWord {word t rest : Text} (h : afterWord? word t = some rest) :
    rest.length + word.length = t.length := by
  induction word generalizing t with
  | nil => simp_all [afterWord?]
  | cons w word ih =>
      cases t with
      | nil => simp [afterWord?] at h
      | cons c more =>
          simp only [afterWord?] at h
          split at h
          · simp only [List.length_cons, ← ih h]
            omega
          · simp at h

theorem length_of_cut {t after : Text} (h : (cut mark t).2 = some after) :
    after.length < t.length := by
  induction t with
  | nil => simp [cut] at h
  | cons c rest ih =>
      simp only [cut] at h
      split at h
      · simp_all
      · exact Nat.lt_succ_of_lt (ih h)

theorem not_mem_cut (t : Text) : mark ∉ (cut mark t).1 := by
  induction t with
  | nil => simp [cut]
  | cons c rest ih =>
      simp only [cut]
      split
      · simp
      · rename_i other
        simpa [ih] using fun same => other same.symm

theorem cut_of_not_mem {t : Text} (h : mark ∉ t) : cut mark t = (t, none) := by
  induction t with
  | nil => rfl
  | cons c rest ih =>
      have other : ¬c = mark := fun same => h (by simp [same])
      have below : mark ∉ rest := fun there => h (by simp [there])
      simp [cut, other, ih below]

theorem cut_append {head : Text} (h : mark ∉ head) (tail : Text) :
    cut mark (head ++ mark :: tail) = (head, some tail) := by
  induction head with
  | nil => simp [cut]
  | cons c rest ih =>
      have other : ¬c = mark := fun same => h (by simp [same])
      have below : mark ∉ rest := fun there => h (by simp [there])
      simp [cut, other, ih below]

theorem eq_of_cut (t : Text) :
    t = match (cut mark t).2 with
      | none => (cut mark t).1
      | some tail => (cut mark t).1 ++ mark :: tail := by
  by_cases h : mark ∈ t
  · obtain ⟨head, tail, rfl, first⟩ := List.eq_append_cons_of_mem h
    simp [cut_append first]
  · simp [cut_of_not_mem h]

end ProofKey.Text
