import ProofKey.Text

/-!
# Mappings that keep the order of insertion

Request parameters, registries and outstanding codes are mappings from texts. Each key occurs
once; putting a value under a key that is there keeps the key's place, a new key goes to the end.
`entries` is the view through which every operation is described.
-/

namespace ProofKey

/-- Values by key, in the order in which the keys first came. -/
@[ext]
structure Mapping (α : Type) where
  entries : List (Text × α)
  nodup : (entries.map Prod.fst).Nodup

namespace Mapping

variable {α β : Type}

section Entries

def lookup (key : Text) : List (Text × α) → Option α
  | [] => none
  | (k, v) :: rest => if k = key then some v else lookup key rest

/-- Overwrites the entry of the key where it stands, or adds one at the end. -/
def put (key : Text) (value : α) : List (Text × α) → List (Text × α)
  | [] => [(key, value)]
  | (k, v) :: rest => if k = key then (k, value) :: rest else (k, v) :: put key value rest

theorem keys_put (key : Text) (value : α) (entries : List (Text × α)) :
    (put key value entries).map Prod.fst =
      if key ∈ entries.map Prod.fst then entries.map Prod.fst
      else entries.map Prod.fst ++ [key] := by
  induction entries with
  | nil => simp [put]
  | cons entry rest ih =>
      obtain ⟨k, v⟩ := entry
      by_cases same : k = key
      · simp [put, same]
      · have other : ¬key = k := fun h => same h.symm
        simp only [put, same, if_false, List.map_cons, ih, List.mem_cons, other, false_or]
        split <;> simp

theorem nodup_put (key : Text) (value : α) {entries : List (Text × α)}
    (h : (entries.map Prod.fst).Nodup) : ((put key value entries).map Prod.fst).Nodup := by
  rw [keys_put]
  split
  · exact h
  · rename_i fresh
    rw [List.nodup_append]
    refine ⟨h, by simp, ?_⟩
    intro a ha b hb same
    simp only [List.mem_singleton] at hb
    exact fresh (hb ▸ same ▸ ha)

theorem lookup_put (key other : Text) (value : α) (entries : List (Text × α)) :
    lookup other (put key value entries) =
      if key = other then some value else lookup other entries := by
  induction entries with
  | nil => simp [put, lookup]
  | cons entry rest ih =>
      obtain ⟨k, v⟩ := entry
      by_cases same : k = key
      · subst same
        simp only [put, if_true, lookup]
        split <;> rfl
      · simp only [put, same, if_false, lookup, ih]
        by_cases here : k = other
        · subst here
          have apart : ¬key = k := fun h => same h.symm
          simp [apart]
        · simp [here]

end Entries

def empty : Mapping α := ⟨[], by simp⟩

instance : Inhabited (Mapping α) := ⟨empty⟩

instance : EmptyCollection (Mapping α) := ⟨empty⟩

instance [DecidableEq α] : DecidableEq (Mapping α) := fun a b =>
  decidable_of_iff (a.entries = b.entries) Mapping.ext_iff.symm

instance [Repr α] : Repr (Mapping α) := ⟨fun m n => reprPrec m.entries n⟩

def keys (m : Mapping α) : List Text := m.entries.map Prod.fst

def size (m : Mapping α) : Nat := m.entries.length

def get? (m : Mapping α) (key : Text) : Option α := lookup key m.entries

def contains (m : Mapping α) (key : Text) : Bool := (m.get? key).isSome

/-- Puts a value under a key; a key that is there keeps its place. -/
def insert (m : Mapping α) (key : Text) (value : α) : Mapping α :=
  ⟨put key value m.entries, nodup_put key value m.nodup⟩

def erase (m : Mapping α) (key : Text) : Mapping α :=
  ⟨m.entries.filter fun entry => entry.1 ≠ key,
    m.nodup.sublist (List.filter_sublist.map Prod.fst)⟩

/-- Puts every entry of a list in turn: the last value of a key counts, at the key's first
place. -/
def insertAll (m : Mapping α) (entries : List (Text × α)) : Mapping α :=
  entries.foldl (fun acc entry => acc.insert entry.1 entry.2) m

def ofList (entries : List (Text × α)) : Mapping α := empty.insertAll entries

/-- Keeps the entries whose value has an image, and takes the image as value. -/
def filterMap (f : α → Option β) (m : Mapping α) : Mapping β :=
  ⟨m.entries.filterMap fun entry => (f entry.2).map (entry.1, ·), by
    have keysSublist : ∀ entries : List (Text × α),
        ((entries.filterMap fun entry => (f entry.2).map (entry.1, ·)).map Prod.fst).Sublist
          (entries.map Prod.fst) := by
      intro entries
      induction entries with
      | nil => simp
      | cons entry rest ih =>
          cases h : f entry.2 with
          | none => simpa [h] using ih.cons entry.1
          | some image => simpa [h] using ih
    exact m.nodup.sublist (keysSublist m.entries)⟩

def map (f : α → β) (m : Mapping α) : Mapping β := m.filterMap (some ∘ f)

theorem get?_empty (key : Text) : (empty : Mapping α).get? key = none := rfl

theorem get?_insert (m : Mapping α) (key other : Text) (value : α) :
    (m.insert key value).get? other = if key = other then some value else m.get? other :=
  lookup_put key other value m.entries

theorem get?_erase (m : Mapping α) (key other : Text) :
    (m.erase key).get? other = if key = other then none else m.get? other := by
  obtain ⟨entries, _⟩ := m
  simp only [get?, erase]
  induction entries with
  | nil => simp [lookup]
  | cons entry rest ih =>
      obtain ⟨k, v⟩ := entry
      rename_i nodup
      have rest_nodup : (rest.map Prod.fst).Nodup := (List.nodup_cons.mp nodup).2
      have below := ih rest_nodup
      by_cases gone : k = key
      · subst gone
        simp only [List.filter_cons, ne_eq, not_true_eq_false, decide_false, Bool.false_eq_true,
          if_false, lookup] at below ⊢
        rw [below]
        split <;> rfl
      · simp only [List.filter_cons, ne_eq, gone, not_false_eq_true, decide_true, if_true,
          lookup] at below ⊢
        rw [below]
        by_cases here : k = other
        · subst here
          have apart : ¬key = k := fun h => gone h.symm
          simp [apart]
        · simp [here]

theorem insert_of_get? {m : Mapping α} {key : Text} {value : α}
    (h : m.get? key = some value) : m.insert key value = m := by
  obtain ⟨entries, nodup⟩ := m
  have same : put key value entries = entries := by
    simp only [get?] at h
    clear nodup
    induction entries with
    | nil => simp [lookup] at h
    | cons entry rest ih =>
        obtain ⟨k, v⟩ := entry
        by_cases here : k = key
        · simp_all [lookup, put]
        · simp only [lookup, here, if_false] at h
          simp only [put, here, if_false, ih h]
  exact Mapping.ext same

theorem mem_keys_iff {m : Mapping α} {key : Text} :
    key ∈ m.keys ↔ ∃ value, m.get? key = some value := by
  simp only [keys, get?]
  induction m.entries with
  | nil => simp [lookup]
  | cons entry rest ih =>
      obtain ⟨k, v⟩ := entry
      by_cases here : k = key
      · simp [lookup, here]
      · have apart : ¬key = k := fun h => here h.symm
        simp only [List.map_cons, List.mem_cons, apart, false_or, lookup, here, if_false, ih]

theorem keys_insert (m : Mapping α) (key : Text) (value : α) :
    (m.insert key value).keys = if key ∈ m.keys then m.keys else m.keys ++ [key] :=
  keys_put key value m.entries

end Mapping

end ProofKey
