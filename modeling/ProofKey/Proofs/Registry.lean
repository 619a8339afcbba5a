import Mathlib.Data.List.Induction
import ProofKey.Proofs.Authorization

/-! # A registry is its registrations

Whatever is registered, and in whichever order, two readings of the list of
registered transforms say all about a registry. The last transform with an id is
the one that the id has, and the ids stand in the order in which they first
occurred, behind `plain`. All readers agree with these two.
-/

namespace ProofKey.Registry

/-- The last of some transforms with a method id; `plain` is built in. -/
def lastFor (ts : List Transform) (methodId : Text) : Option Transform :=
  (ts.filter fun t => t.methodId = methodId).getLast?.or
    (if methodId = Transform.plainId then some .plain else none)

/-- `plain`, and behind it the other ids of some transforms, each at its first occurrence. -/
def idsInOrder (ts : List Transform) : List Text :=
  Transform.plainId ::
    ((ts.map (·.methodId)).filter fun id => id ≠ Transform.plainId).eraseDups

section Specification

variable {ts : List Transform} {methodId : Text} {transform : Transform}

theorem lastFor_concat (ts : List Transform) (t : Transform) (methodId : Text) :
    lastFor (ts ++ [t]) methodId =
      if t.methodId = methodId then some t else lastFor ts methodId := by
  by_cases same : t.methodId = methodId
  · simp [lastFor, List.filter_append, same]
  · simp [lastFor, List.filter_append, same]

theorem methodId_of_lastFor (held : lastFor ts methodId = some transform) :
    transform.methodId = methodId := by
  rcases Option.or_eq_some_iff.mp held with listed | ⟨_, builtIn⟩
  · simpa using (List.mem_filter.mp (List.mem_of_getLast? listed)).2
  · split at builtIn
    · rename_i same
      obtain rfl := Option.some.inj builtIn
      exact same.symm
    · simp at builtIn

theorem idsInOrder_eq_eraseDups (ts : List Transform) :
    idsInOrder ts = (Transform.plainId :: ts.map (·.methodId)).eraseDups := by
  rw [List.eraseDups_cons, idsInOrder]
  congr 3
  funext id
  by_cases same : id = Transform.plainId <;> simp [same]

theorem eraseDups_concat (texts : List Text) (last : Text) :
    (texts ++ [last]).eraseDups =
      if last ∈ texts then texts.eraseDups else texts.eraseDups ++ [last] := by
  rw [List.eraseDups_append]
  by_cases member : last ∈ texts
  · simp [List.removeAll, member]
  · simp [List.removeAll, member, List.eraseDups_cons]

theorem idsInOrder_concat (ts : List Transform) (t : Transform) :
    idsInOrder (ts ++ [t]) =
      if t.methodId ∈ idsInOrder ts then idsInOrder ts else idsInOrder ts ++ [t.methodId] := by
  simp only [idsInOrder_eq_eraseDups, List.mem_eraseDups, List.map_append, List.map_cons,
    List.map_nil, ← List.cons_append]
  exact eraseDups_concat _ t.methodId

end Specification

section Registering

variable {r : Registry} {methodId : Text}

theorem get?_initial (methodId : Text) : initial.get? methodId = lastFor [] methodId := by
  by_cases same : methodId = Transform.plainId
  · simp [get?, initial, lastFor, Mapping.get?_insert, same]
  · have other : ¬Transform.plainId = methodId := fun h => same h.symm
    simp [get?, initial, lastFor, Mapping.get?_insert, Mapping.get?_empty, same, other]

theorem ids_register (r : Registry) (registration : Registration) :
    (r.register registration).ids =
      if registration.transform.methodId ∈ r.ids then r.ids
      else r.ids ++ [registration.transform.methodId] :=
  Mapping.keys_insert r.slots _ registration

/-- After some registrations an id has the last transform that was registered under it. -/
theorem get?_foldl_register (registrations : List Registration) (methodId : Text) :
    (registrations.foldl register initial).get? methodId =
      lastFor (registrations.map (·.transform)) methodId := by
  induction registrations using List.reverseRecOn with
  | nil => exact get?_initial methodId
  | append_singleton registrations registration ih =>
      simp only [List.foldl_append, List.foldl_cons, List.foldl_nil, List.map_append,
        List.map_cons, List.map_nil, get?_register, lastFor_concat, ih]

/-- After some registrations the ids stand as they first came, behind `plain`. -/
theorem ids_foldl_register (registrations : List Registration) :
    (registrations.foldl register initial).ids =
      idsInOrder (registrations.map (·.transform)) := by
  induction registrations using List.reverseRecOn with
  | nil => rfl
  | append_singleton registrations registration ih =>
      simp only [List.foldl_append, List.foldl_cons, List.foldl_nil, List.map_append,
        List.map_cons, List.map_nil, ids_register, idsInOrder_concat, ih]

theorem ids_prefix_foldl_register (r : Registry) (registrations : List Registration) :
    r.ids <+: (registrations.foldl register r).ids := by
  induction registrations generalizing r with
  | nil => exact List.prefix_rfl
  | cons registration more ih =>
      have grown : r.ids <+: (r.register registration).ids := by
        rw [ids_register]
        split
        · exact List.prefix_rfl
        · exact List.prefix_append _ _
      exact grown.trans (ih (r.register registration))

theorem exists_registerAll_eq_foldl (r : Registry) (ts : List Transform) :
    ∃ registrations : List Registration, registrations.map (·.transform) = ts ∧
      r.registerAll ts = registrations.foldl register r := by
  induction ts generalizing r with
  | nil => exact ⟨[], rfl, rfl⟩
  | cons t rest ih =>
      obtain ⟨registrations, same, whole⟩ := ih (r.register (r.instantiate t))
      exact ⟨r.instantiate t :: registrations, congrArg (t :: ·) same, whole⟩

theorem get?_registerAll (ts : List Transform) (methodId : Text) :
    (initial.registerAll ts).get? methodId = lastFor ts methodId := by
  obtain ⟨registrations, rfl, whole⟩ := exists_registerAll_eq_foldl initial ts
  rw [whole, get?_foldl_register]

theorem ids_registerAll (ts : List Transform) :
    (initial.registerAll ts).ids = idsInOrder ts := by
  obtain ⟨registrations, rfl, whole⟩ := exists_registerAll_eq_foldl initial ts
  rw [whole, ids_foldl_register]

theorem ids_foldl_registerAll (ts : List Transform) (later : List Registration) :
    (later.foldl register (initial.registerAll ts)).ids =
      idsInOrder (ts ++ later.map (·.transform)) := by
  obtain ⟨first, rfl, whole⟩ := exists_registerAll_eq_foldl initial ts
  rw [whole, ← List.foldl_append, ids_foldl_register, List.map_append]

end Registering

section Readers

variable {r : Registry} {methodId : Text}

theorem mem_ids_iff : methodId ∈ r.ids ↔ ∃ transform, r.get? methodId = some transform := by
  rw [ids, Mapping.mem_keys_iff]
  simp [get?]

theorem supports_iff_mem_ids : r.supports methodId = true ↔ methodId ∈ r.ids := by
  rw [supports_eq_isSome, Option.isSome_iff_exists, mem_ids_iff]

theorem offers_iff {methodId : Option Text} :
    r.offers methodId = true ↔ ∃ id ∈ r.ids, methodId = some id := by
  cases methodId with
  | none => simp [offers]
  | some id => simp [offers, supports_iff_mem_ids]

theorem offers_iff_find? {methodId : Option Text} :
    r.offers methodId = true ↔ ∃ transform, r.find? methodId = some transform := by
  cases methodId with
  | none => simp [offers, find?]
  | some id => simp [offers, find?, supports_iff_mem_ids, mem_ids_iff]

theorem size_eq_length_ids (r : Registry) : r.size = r.ids.length := by
  simp [size, ids, Mapping.size, Mapping.keys]

end Readers

/-- A registry is made from a list of transforms and then gets further registrations. All of them
in one list say what it holds: an id has the last transform with that id, or the built-in `plain`,
and the ids stand as they first came, behind `plain`. The readers agree: an id is on offer if it
stands there, which is if it has a transform, and that transform is one for this very id. A
missing id is not on offer and has no transform. Nothing that is registered later takes an id out
or moves it, `plain` included. -/
theorem registrations_determine_registry (ts : List Transform) (later : List Registration) :
    ∃ start, (ofTransforms ts).result = .ok start ∧
      let r := later.foldl register start
      let registered := ts ++ later.map (·.transform)
      (∀ methodId, r.find? methodId = methodId.bind (lastFor registered)) ∧
      r.ids = idsInOrder registered ∧ r.ids.Nodup ∧ r.size = r.ids.length ∧
      (∀ id, id ∈ r.sortedIds ↔ id ∈ r.ids) ∧
      (∀ methodId, r.offers methodId = true ↔ ∃ id ∈ r.ids, methodId = some id) ∧
      (∀ methodId, r.offers methodId = true ↔ ∃ transform, r.find? methodId = some transform) ∧
      (∀ methodId transform, r.find? methodId = some transform →
        methodId = some transform.methodId) ∧
      r.offers (some Transform.plainId) = true ∧
      ∀ more : List Registration, r.ids <+: (more.foldl register r).ids := by
  obtain ⟨first, sameFirst, whole⟩ := exists_registerAll_eq_foldl initial ts
  refine ⟨initial.registerAll ts, rfl, ?_⟩
  intro r registered
  have run : r = (first ++ later).foldl register initial := by
    simp only [r, whole, List.foldl_append]
  have all : (first ++ later).map (·.transform) = registered := by
    simp only [registered, List.map_append, sameFirst]
  have found (id : Text) : r.get? id = lastFor registered id := by
    rw [run, get?_foldl_register, all]
  have order : r.ids = idsInOrder registered := by
    rw [run, ids_foldl_register, all]
  refine ⟨?last, order, r.slots.nodup, size_eq_length_ids r, fun _ => Text.mem_sorted,
    fun _ => offers_iff, fun _ => offers_iff_find?, ?own, ?plain, ids_prefix_foldl_register r⟩
  case last =>
    intro methodId
    cases methodId with
    | none => rfl
    | some id => exact found id
  case own =>
    intro methodId transform answered
    obtain ⟨id, rfl, held⟩ := Option.bind_eq_some_iff.mp answered
    rw [found] at held
    rw [methodId_of_lastFor held]
  case plain =>
    refine offers_iff.mpr ⟨Transform.plainId, ?_, rfl⟩
    rw [order]
    exact List.mem_cons_self

-- a transform in the place of `plain`, and a method that comes twice
example :
    let own : Transform := { Transform.s256 with methodId := Transform.plainId }
    let r := initial.registerAll [.s256, own, .s256]
    r.ids = [Transform.plainId, Transform.s256Id] ∧ r.get? Transform.plainId = some own :=
  ⟨rfl, rfl⟩

end ProofKey.Registry
