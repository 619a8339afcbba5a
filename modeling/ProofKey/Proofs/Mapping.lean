import ProofKey.Mapping

/-! # What a list of entries makes of a mapping

Of several entries with one key the last one counts, and a key that the list does not
have keeps what it had.
-/

namespace ProofKey.Mapping

variable {α β : Type} {key : Text} {entries : List (Text × α)}

theorem lookup_eq_none (absent : key ∉ entries.map Prod.fst) : lookup key entries = none := by
  induction entries with
  | nil => rfl
  | cons entry rest ih =>
      obtain ⟨k, v⟩ := entry
      simp only [List.map_cons, List.mem_cons, not_or] at absent
      simp only [lookup, Ne.symm absent.1, if_false, ih absent.2]

section Last

def last? (entries : List (Text × α)) (key : Text) : Option α :=
  (entries.filter fun entry => entry.1 = key).getLast?.map Prod.snd

theorem last?_cons (k : Text) (v : α) (entries : List (Text × α)) (key : Text) :
    last? ((k, v) :: entries) key =
      (last? entries key).or (if k = key then some v else none) := by
  by_cases same : k = key
  · have kept : ((k, v) :: entries).filter (fun entry => entry.1 = key) =
        (k, v) :: entries.filter fun entry => entry.1 = key := by simp [same]
    rw [last?, kept, List.getLast?_cons, last?, if_pos same]
    cases (entries.filter fun entry => entry.1 = key).getLast? <;> rfl
  · simp [last?, same]

theorem last?_eq_none (absent : key ∉ entries.map Prod.fst) : last? entries key = none := by
  have none : (entries.filter fun entry => entry.1 = key) = [] := by
    refine List.filter_eq_nil_iff.mpr fun entry member same => absent ?_
    exact of_decide_eq_true same ▸ List.mem_map_of_mem member
  rw [last?, none, List.getLast?_nil, Option.map_none]

theorem last?_entries (m : Mapping α) (key : Text) : last? m.entries key = m.get? key := by
  obtain ⟨entries, nodup⟩ := m
  simp only [get?]
  induction entries with
  | nil => rfl
  | cons entry rest ih =>
      obtain ⟨k, v⟩ := entry
      obtain ⟨fresh, nodup⟩ := List.nodup_cons.mp nodup
      rw [last?_cons, lookup]
      split
      · rename_i same
        subst same
        rw [last?_eq_none fresh, Option.none_or]
      · rw [ih nodup, Option.or_none]

/-- What is put in goes before what was there. -/
theorem get?_insertAll (m : Mapping α) (entries : List (Text × α)) (key : Text) :
    (m.insertAll entries).get? key = (last? entries key).or (m.get? key) := by
  induction entries generalizing m with
  | nil => rfl
  | cons entry rest ih =>
      obtain ⟨k, v⟩ := entry
      have step : m.insertAll ((k, v) :: rest) = (m.insert k v).insertAll rest := rfl
      rw [step, ih, get?_insert, last?_cons, Option.or_assoc]
      split <;> rfl

theorem get?_ofList (entries : List (Text × α)) (key : Text) :
    (ofList entries).get? key = last? entries key := by
  rw [ofList, get?_insertAll, get?_empty, Option.or_none]

end Last

section Images

theorem get?_filterMap (f : α → Option β) (m : Mapping α) (key : Text) :
    (m.filterMap f).get? key = (m.get? key).bind f := by
  obtain ⟨entries, nodup⟩ := m
  simp only [get?, filterMap]
  induction entries with
  | nil => rfl
  | cons entry rest ih =>
      obtain ⟨k, v⟩ := entry
      obtain ⟨fresh, nodup⟩ := List.nodup_cons.mp nodup
      have below := ih nodup
      cases image : f v with
      | none =>
          simp only [List.filterMap_cons, image, Option.map_none, lookup, below]
          split
          · rename_i same
            subst same
            simp [lookup_eq_none fresh, image]
          · rfl
      | some w =>
          simp only [List.filterMap_cons, image, Option.map_some, lookup, below]
          split
          · simp [image]
          · rfl

theorem get?_map (f : α → β) (m : Mapping α) (key : Text) :
    (m.map f).get? key = (m.get? key).map f := by
  rw [map, get?_filterMap]
  cases m.get? key <;> rfl

end Images

end ProofKey.Mapping
