import ProofKey.EnvFile.Loader
import ProofKey.Proofs.Mapping

/-! # What an environment file adds

A file gives values to variables that the environment does not have and changes none
that it has. It is refused for a variable that it gives and no process can have; as
every name in a file has at least one character, such a variable holds U+0000, or a
`=` in its name.
-/

namespace ProofKey

/-- What is asked of a loader: it may fail, but what the environment has it keeps. -/
structure Loader.OnlyAdds (loader : Loader) : Prop where
  keeps : ∀ env file full, loader env file = .ok full →
    ∀ name value, env.get? name = some value → full.get? name = some value

namespace Environment

variable {name value : Text} {error : VariableError}

/-- A variable that a process can have. -/
structure Holdable (name value : Text) : Prop where
  named : name ≠ []
  noEqualsSign : CodePoint.ofChar '=' ∉ name
  noZeroByte : CodePoint.ofChar '\x00' ∉ name ∧ CodePoint.ofChar '\x00' ∉ value

theorem fault?_eq_none_iff : fault? name value = none ↔ Holdable name value := by
  constructor
  · intro sound
    simp only [fault?] at sound
    split at sound
    · simp at sound
    · split at sound
      · simp at sound
      · split at sound
        · simp at sound
        · rename_i zero equals empty
          simp only [List.contains_iff_mem, Bool.or_eq_true, not_or] at zero equals
          exact ⟨by simpa using empty, equals, zero⟩
  · rintro ⟨named, noEqualsSign, noZeroByte⟩
    simp [fault?, named, noEqualsSign, noZeroByte]

def Faulty (name value : Text) : VariableError → Prop
  | .zeroByte => CodePoint.ofChar '\x00' ∈ name ∨ CodePoint.ofChar '\x00' ∈ value
  | .equalsSign => CodePoint.ofChar '=' ∈ name
  | .noName => name = []

theorem faulty_of_fault? (found : fault? name value = some error) : Faulty name value error := by
  simp only [fault?] at found
  split at found
  · rename_i zero
    obtain rfl := Option.some.inj found
    simpa [Faulty] using zero
  · split at found
    · rename_i equals
      obtain rfl := Option.some.inj found
      simpa [Faulty] using equals
    · split at found
      · rename_i empty
        obtain rfl := Option.some.inj found
        simpa [Faulty] using empty
      · simp at found

theorem Holdable.not_faulty (holdable : Holdable name value) : ¬Faulty name value error := by
  obtain ⟨named, noEqualsSign, noZeroName, noZeroValue⟩ := holdable
  cases error with
  | zeroByte => exact not_or.mpr ⟨noZeroName, noZeroValue⟩
  | equalsSign => exact noEqualsSign
  | noName => exact named

end Environment

namespace EnvFile

section Adding

variable {env next full : Environment} {name other value : Text} {given : Option Text}
  {entries : List (Text × Option Text)} {error : VariableError}

theorem addMissing_error_iff : addMissing env name given = .error error ↔
    ∃ value, given = some value ∧ env.get? name = none ∧
      Environment.fault? name value = some error := by
  cases given with
  | none => simp [addMissing]
  | some value =>
      cases held : env.get? name with
      | some old => simp [addMissing, Mapping.contains, held]
      | none =>
          cases fault : Environment.fault? name value with
          | none => simp [addMissing, Mapping.contains, held, Environment.set, fault]
          | some found => simp [addMissing, Mapping.contains, held, Environment.set, fault]

theorem get?_addMissing (added : addMissing env name given = .ok next) : next.get? other =
    if name = other then (env.get? name).or given else env.get? other := by
  cases given with
  | none =>
      obtain rfl : env = next := Except.ok.inj added
      by_cases same : name = other
      · simp [same]
      · simp [same]
  | some value =>
      cases held : env.get? name with
      | some old =>
          obtain rfl : env = next := by simpa [addMissing, Mapping.contains, held] using added
          by_cases same : name = other
          · simp [← same, held]
          · simp [same]
      | none =>
          cases fault : Environment.fault? name value with
          | some found =>
              simp [addMissing, Mapping.contains, held, Environment.set, fault] at added
          | none =>
              obtain rfl : env.insert name value = next := by
                simpa [addMissing, Mapping.contains, held, Environment.set, fault] using added
              rw [Mapping.get?_insert]
              rfl

def addAll (env : Environment) (entries : List (Text × Option Text)) :
    Except VariableError Environment :=
  entries.foldlM (fun acc entry => addMissing acc entry.1 entry.2) env

theorem addAll_cons (env : Environment) (name : Text) (given : Option Text)
    (entries : List (Text × Option Text)) : addAll env ((name, given) :: entries) =
      (addMissing env name given).bind fun next => addAll next entries :=
  List.foldlM_cons

theorem addAll_cons_eq_ok_iff : addAll env ((name, given) :: entries) = .ok full ↔
    ∃ next, addMissing env name given = .ok next ∧ addAll next entries = .ok full := by
  rw [addAll_cons]
  cases addMissing env name given with
  | error error => simp [Except.bind]
  | ok next => simp [Except.bind]

theorem addAll_cons_eq_error_iff : addAll env ((name, given) :: entries) = .error error ↔
    addMissing env name given = .error error ∨
      ∃ next, addMissing env name given = .ok next ∧ addAll next entries = .error error := by
  rw [addAll_cons]
  cases addMissing env name given with
  | error error => simp [Except.bind]
  | ok next => simp [Except.bind]

theorem get?_addAll (distinct : (entries.map Prod.fst).Nodup)
    (added : addAll env entries = .ok full) (name : Text) :
    full.get? name = (env.get? name).or (Mapping.lookup name entries).join := by
  induction entries generalizing env with
  | nil =>
      obtain rfl : env = full := Except.ok.inj added
      simp [Mapping.lookup]
  | cons entry rest ih =>
      obtain ⟨k, given⟩ := entry
      obtain ⟨absent, later⟩ := List.nodup_cons.mp distinct
      obtain ⟨next, first, remaining⟩ := addAll_cons_eq_ok_iff.mp added
      rw [ih later remaining, get?_addMissing first, Mapping.lookup]
      by_cases same : k = name
      · subst same
        simp [Mapping.lookup_eq_none absent]
      · simp [same]

theorem fault?_of_addAll (distinct : (entries.map Prod.fst).Nodup)
    (added : addAll env entries = .ok full) (missing : env.get? name = none)
    (given : Mapping.lookup name entries = some (some value)) :
    Environment.fault? name value = none := by
  induction entries generalizing env with
  | nil => simp [Mapping.lookup] at given
  | cons entry rest ih =>
      obtain ⟨k, told⟩ := entry
      obtain ⟨absent, later⟩ := List.nodup_cons.mp distinct
      obtain ⟨next, first, remaining⟩ := addAll_cons_eq_ok_iff.mp added
      rw [Mapping.lookup] at given
      by_cases same : k = name
      · subst same
        obtain rfl : told = some value := by simpa using given
        cases fault : Environment.fault? k value with
        | none => rfl
        | some error =>
            have refused := addMissing_error_iff.mpr ⟨value, rfl, missing, fault⟩
            simp [first] at refused
      · have stillMissing : next.get? name = none := by
          rw [get?_addMissing first, if_neg same, missing]
        exact ih later remaining stillMissing (by simpa [same] using given)

theorem exists_of_addAll_error (distinct : (entries.map Prod.fst).Nodup)
    (refused : addAll env entries = .error error) : ∃ name value, env.get? name = none ∧
      Mapping.lookup name entries = some (some value) ∧
      Environment.fault? name value = some error := by
  induction entries generalizing env with
  | nil => simp [addAll, pure, Except.pure] at refused
  | cons entry rest ih =>
      obtain ⟨k, given⟩ := entry
      obtain ⟨absent, later⟩ := List.nodup_cons.mp distinct
      obtain here | ⟨next, first, remaining⟩ := addAll_cons_eq_error_iff.mp refused
      · obtain ⟨value, rfl, missing, fault⟩ := addMissing_error_iff.mp here
        exact ⟨k, value, missing, by simp [Mapping.lookup], fault⟩
      · obtain ⟨name, value, missing, listed, fault⟩ := ih later remaining
        have apart : k ≠ name := by
          rintro rfl
          simp [Mapping.lookup_eq_none absent] at listed
        rw [get?_addMissing first, if_neg apart] at missing
        exact ⟨name, value, missing, by simp [Mapping.lookup, apart, listed], fault⟩

end Adding

section Names

variable {env : Environment} {t file name key : Text} {b : EnvBinding} {list : List EnvBinding}

theorem ne_nil_of_readName {after : Text} (read : readName t = some (some name, after)) :
    name ≠ [] := by
  rintro rfl
  unfold readName at read
  split at read
  · simp at read
  · split at read
    · simp at read
    · split at read
      · split at read
        · simp at read
        · simp at read
        · rename_i nonempty _
          simp only [Option.some.injEq, Prod.mk.injEq] at read
          exact nonempty read.1
      · split at read
        · simp at read
        · rename_i nonempty
          simp only [Option.some.injEq, Prod.mk.injEq] at read
          exact nonempty read.1

theorem eq_name_of_map {given : Option Text} {value : Option Text}
    (named : (given.map fun n => (⟨n, value⟩ : EnvBinding)) = some b) : given = some b.name := by
  obtain ⟨n, rfl, rfl⟩ := Option.map_eq_some_iff.mp named
  rfl

theorem eq_name_of_readRest {given : Option Text} (read : (readRest given t).1 = some b) :
    given = some b.name := by
  unfold readRest at read
  simp only at read
  -- a binding is made only where its line ends behind it
  split at read
  · split at read
    · exact eq_name_of_map read
    · simp at read
  · split at read
    · split at read
      · split at read
        · exact eq_name_of_map read
        · simp at read
      · simp at read
    · split at read
      · exact eq_name_of_map read
      · simp at read

theorem name_ne_nil_of_readBinding (read : (readBinding t).1 = some b) : b.name ≠ [] := by
  unfold readBinding at read
  split at read
  · simp at read
  · simp only at read
    split at read
    · rename_i found
      obtain rfl := eq_name_of_readRest read
      exact ne_nil_of_readName found
    · simp at read

theorem name_ne_nil_of_mem_readAll (member : b ∈ readAll t) : b.name ≠ [] := by
  fun_induction readAll t with
  | case1 t binding rest read shorter ih =>
      rcases List.mem_append.mp member with here | later
      · have first : (readBinding t).1 = some b := by rw [read, Option.mem_toList.mp here]
        exact name_ne_nil_of_readBinding first
      · exact ih later
  | case2 t binding rest read whole =>
      have first : (readBinding t).1 = some b := by rw [read, Option.mem_toList.mp member]
      exact name_ne_nil_of_readBinding first

theorem name_ne_nil_of_mem_bindings (member : b ∈ bindings file) : b.name ≠ [] := by
  unfold bindings at member
  simp only at member
  split at member
  · exact name_ne_nil_of_mem_readAll member
  · simp at member

theorem mem_keys_foldl {earlier : Mapping (Option Text)}
    (member : key ∈ (list.foldl (fun earlier b =>
      earlier.insert b.name (b.value.map (expand (Variable.resolve env earlier)))) earlier).keys) :
    key ∈ earlier.keys ∨ ∃ b ∈ list, b.name = key := by
  induction list generalizing earlier with
  | nil => exact .inl member
  | cons b rest ih =>
      rcases ih member with before | ⟨c, among, rfl⟩
      · rw [Mapping.keys_insert] at before
        split at before
        · exact .inl before
        · rcases List.mem_append.mp before with before | here
          · exact .inl before
          · exact .inr ⟨b, List.mem_cons_self, (List.mem_singleton.mp here).symm⟩
      · exact .inr ⟨c, List.mem_cons_of_mem b among, rfl⟩

theorem exists_binding_of_mem_keys (member : key ∈ (resolve env list).keys) :
    ∃ b ∈ list, b.name = key :=
  (mem_keys_foldl member).resolve_left (by simp [Mapping.keys, Mapping.empty])

end Names

section Loading

variable {env full : Environment} {file name value : Text} {error : VariableError}

/-- What a file says of a variable, if it gives it a value. -/
def supplied (env : Environment) (file name : Text) : Option Text :=
  ((resolve env (bindings file)).get? name).join

theorem lookup_of_supplied (given : supplied env file name = some value) :
    Mapping.lookup name (resolve env (bindings file)).entries = some (some value) :=
  Option.join_eq_some_iff.mp given

theorem ne_nil_of_supplied (given : supplied env file name = some value) : name ≠ [] := by
  have listed : name ∈ (resolve env (bindings file)).keys :=
    Mapping.mem_keys_iff.mpr ⟨_, lookup_of_supplied given⟩
  obtain ⟨b, among, rfl⟩ := exists_binding_of_mem_keys listed
  exact name_ne_nil_of_mem_bindings among

/-- A variable has the value of the environment if it has one there, and else that of the file. -/
theorem get?_loadInto (loaded : loadInto env file = .ok full) (name : Text) :
    full.get? name = (env.get? name).or (supplied env file name) :=
  get?_addAll (resolve env (bindings file)).nodup loaded name

theorem holdable_of_loadInto (loaded : loadInto env file = .ok full)
    (missing : env.get? name = none) (given : supplied env file name = some value) :
    Environment.Holdable name value :=
  Environment.fault?_eq_none_iff.mp (fault?_of_addAll (resolve env (bindings file)).nodup loaded
    missing (lookup_of_supplied given))

/-- A file is refused only for a variable that it gives, that is not there yet and that is at fault,
but never for a name that is empty. -/
theorem exists_of_loadInto_error (refused : loadInto env file = .error error) :
    error ≠ .noName ∧ ∃ name value, env.get? name = none ∧
      supplied env file name = some value ∧ Environment.Faulty name value error := by
  obtain ⟨name, value, missing, given, fault⟩ :=
    exists_of_addAll_error (resolve env (bindings file)).nodup refused
  have supplies : supplied env file name = some value := Option.join_eq_some_iff.mpr given
  have faulty := Environment.faulty_of_fault? fault
  refine ⟨?_, name, value, missing, supplies, faulty⟩
  rintro rfl
  exact ne_nil_of_supplied supplies faulty

theorem onlyAdds_loader : Loader.OnlyAdds loader where
  keeps env file full loaded name value held := by
    unfold loader at loaded
    split at loaded
    · rw [← Except.ok.inj loaded, held]
    · rw [get?_loadInto loaded, held, Option.some_or]

end Loading

end EnvFile

end ProofKey
