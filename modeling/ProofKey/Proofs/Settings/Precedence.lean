import ProofKey.Proofs.EnvFile
import ProofKey.Settings

/-! # Where a setting comes from

A setting has the value of its variable in the environment if it is set there, be it to
an empty text, and else the value that the environment file gives it. So no file
changes what the environment says. What a file can do is to be refused, for a variable
of whatever name that no process can have, and then there are no settings.
-/

namespace ProofKey.Settings

section Completing

variable {env full : Environment} {file : Option Text} {name value : Text}
  {failure : SettingsError}

theorem get?_of_onlyAdds {loader : Loader} (adds : loader.OnlyAdds)
    (completed : complete loader env file = .ok full) (set : env.contains name = true) :
    full.get? name = env.get? name := by
  obtain ⟨value, held⟩ := Option.isSome_iff_exists.mp set
  cases file with
  | none =>
      obtain rfl : env = full := Except.ok.inj completed
      rfl
  | some text =>
      rw [complete] at completed
      cases loaded : loader env text with
      | error error =>
          rw [loaded] at completed
          cases completed
      | ok next =>
          rw [loaded] at completed
          obtain rfl : next = full := Except.ok.inj completed
          rw [held, adds.keeps env text next loaded name value held]

/-- What the environment file says of a variable, if there is a file and it is read. -/
def fromFile (env : Environment) (file : Option Text) (name : Text) : Option Text :=
  if EnvFile.ignoresFiles env then none
  else file.bind fun text => EnvFile.supplied env text name

/-- The value of a variable once the environment file is read. -/
def effective (env : Environment) (file : Option Text) (name : Text) : Option Text :=
  (env.get? name).or (fromFile env file name)

/-- All variables that the environment file adds are such that a process can have them. -/
def Loadable (env : Environment) (file : Option Text) : Prop :=
  ∀ name value, env.get? name = none → fromFile env file name = some value →
    Environment.Holdable name value

/-- Either nothing is read, or a file is loaded into the environment. -/
theorem complete_cases (env : Environment) (file : Option Text) :
    (complete EnvFile.loader env file = .ok env ∧ ∀ name, fromFile env file name = none) ∨
    ∃ text,
      (∀ full, complete EnvFile.loader env file = .ok full ↔
        EnvFile.loadInto env text = .ok full) ∧
      (∀ failure, complete EnvFile.loader env file = .error failure ↔
        ∃ error, EnvFile.loadInto env text = .error error ∧ failure = .refused error) ∧
      ∀ name, fromFile env file name = EnvFile.supplied env text name := by
  cases file with
  | none => exact .inl ⟨rfl, by simp [fromFile]⟩
  | some text =>
      cases ignored : EnvFile.ignoresFiles env with
      | true =>
          have same : EnvFile.loader env text = .ok env := by simp [EnvFile.loader, ignored]
          refine .inl ⟨?_, by simp [fromFile, ignored]⟩
          rw [complete, same]
          rfl
      | false =>
          have same : ∀ name, fromFile env (some text) name = EnvFile.supplied env text name := by
            simp [fromFile, ignored]
          have read : complete EnvFile.loader env (some text) =
              (EnvFile.loadInto env text).mapError .refused := by
            simp [complete, EnvFile.loader, ignored]
          cases loaded : EnvFile.loadInto env text with
          | error error =>
              have fails : complete EnvFile.loader env (some text) = .error (.refused error) := by
                rw [read, loaded]
                rfl
              exact .inr ⟨text, by simp [fails, loaded], by simp [fails, loaded, eq_comm], same⟩
          | ok loadedEnv =>
              have succeeds : complete EnvFile.loader env (some text) = .ok loadedEnv := by
                rw [read, loaded]
                rfl
              exact .inr ⟨text, by simp [succeeds, loaded], by simp [succeeds, loaded], same⟩

theorem get?_complete (completed : complete EnvFile.loader env file = .ok full) (name : Text) :
    full.get? name = effective env file name := by
  obtain ⟨kept, nothing⟩ | ⟨text, read, _, same⟩ := complete_cases env file
  · obtain rfl : env = full := Except.ok.inj (kept.symm.trans completed)
    simp [effective, nothing]
  · rw [EnvFile.get?_loadInto ((read full).mp completed), effective, same]

theorem loadable_of_complete (completed : complete EnvFile.loader env file = .ok full) :
    Loadable env file := by
  intro name value missing given
  obtain ⟨_, nothing⟩ | ⟨text, read, _, same⟩ := complete_cases env file
  · simp [nothing] at given
  · exact EnvFile.holdable_of_loadInto ((read full).mp completed) missing (same name ▸ given)

theorem exists_of_complete_error
    (refused : complete EnvFile.loader env file = .error failure) :
    ∃ error, failure = .refused error ∧ error ≠ .noName ∧ ∃ name value, env.get? name = none ∧
      fromFile env file name = some value ∧ Environment.Faulty name value error := by
  obtain ⟨kept, _⟩ | ⟨text, _, fails, same⟩ := complete_cases env file
  · simp [kept] at refused
  · obtain ⟨error, loading, rfl⟩ := (fails failure).mp refused
    obtain ⟨named, name, value, missing, given, fault⟩ := EnvFile.exists_of_loadInto_error loading
    exact ⟨error, rfl, named, name, value, missing, (same name).trans given, fault⟩

theorem exists_complete_iff :
    (∃ full, complete EnvFile.loader env file = .ok full) ↔ Loadable env file := by
  constructor
  · rintro ⟨full, completed⟩
    exact loadable_of_complete completed
  · intro loadable
    cases completed : complete EnvFile.loader env file with
    | ok full => exact ⟨full, rfl⟩
    | error failure =>
        obtain ⟨error, _, _, name, value, missing, given, fault⟩ :=
          exists_of_complete_error completed
        exact absurd fault (loadable name value missing given).not_faulty

end Completing

section Reading

variable {env full otherFull : Environment} {file : Option Text} {value : Text}
  {settings : Settings}

/-- The methods that the value of the first variable stands for. -/
def methodsOf : Option Text → List Text
  | some value => parseMethods value
  | none => [Transform.plainId, Transform.s256Id]

/-- What the value of the second variable stands for, if it can be read. -/
def allowOf : Option Text → Option Bool
  | some value => parseBool? value
  | none => some true

/-- The settings that the values of the two variables stand for. -/
def ofValues (methods query : Option Text) : Except SettingsError Settings :=
  match allowOf query with
  | some allow => .ok ⟨methodsOf methods, allow⟩
  | none => .error (.notBoolean queryVariable (query.getD []))

theorem ofEnvironment_eq (env : Environment) :
    ofEnvironment env = ofValues (env.get? methodsVariable) (env.get? queryVariable) := by
  unfold ofEnvironment ofValues
  cases env.get? methodsVariable <;> cases query : env.get? queryVariable with
  | none => rfl
  | some word =>
      simp only [allowOf]
      cases parseBool? word <;> rfl

theorem parseBool?_eq_none_iff : parseBool? value = none ↔
    (Text.strip value).map CodePoint.toLower ∉
      (["1", "true", "yes", "on", "0", "false", "no", "off"] : List Text) := by
  have words : (["1", "true", "yes", "on", "0", "false", "no", "off"] : List Text) =
      trueWords ++ falseWords := rfl
  rw [words, List.mem_append, not_or, parseBool?]
  split
  · simp [*]
  · split
    · simp [*]
    · simp [*]

theorem ofValues_eq_ok_iff {methods query : Option Text} : ofValues methods query = .ok settings ↔
    settings.methods = methodsOf methods ∧ allowOf query = some settings.allowQueryString := by
  unfold ofValues
  cases allowOf query with
  | none => simp
  | some allow =>
      obtain ⟨named, allowed⟩ := settings
      simp [eq_comm]

theorem exists_ofValues_error_iff {methods query : Option Text} :
    (∃ failure, ofValues methods query = .error failure) ↔
      ∃ value, query = some value ∧ parseBool? value = none := by
  unfold ofValues
  cases query with
  | none => simp [allowOf]
  | some word =>
      simp only [allowOf]
      cases read : parseBool? word with
      | none => simp [read]
      | some allow => simp [read]

section Loader

variable {loader : Loader} {otherFile : Option Text} {others : Settings}

theorem load_of_complete (completed : complete loader env file = .ok full) :
    load loader env file =
      ofValues (full.get? methodsVariable) (full.get? queryVariable) := by
  rw [load, completed]
  exact ofEnvironment_eq full

theorem exists_complete_of_load (loaded : load loader env file = .ok settings) :
    ∃ full, complete loader env file = .ok full := by
  cases completed : complete loader env file with
  | ok full => exact ⟨full, rfl⟩
  | error failure => simp [load, completed, Except.bind] at loaded

theorem exists_load_error_iff_of_complete (completed : complete loader env file = .ok full) :
    (∃ failure, load loader env file = .error failure) ↔
      ∃ value, full.get? queryVariable = some value ∧ parseBool? value = none := by
  rw [load_of_complete completed, exists_ofValues_error_iff]

theorem values_of_complete (completed : complete loader env file = .ok full)
    (loaded : load loader env file = .ok settings) :
    settings.methods = methodsOf (full.get? methodsVariable) ∧
      allowOf (full.get? queryVariable) = some settings.allowQueryString :=
  ofValues_eq_ok_iff.mp ((load_of_complete completed).symm.trans loaded)

variable (adds : loader.OnlyAdds)

include adds

theorem load_eq_of_onlyAdds (completed : complete loader env file = .ok full)
    (alsoCompleted : complete loader env otherFile = .ok otherFull)
    (methods : env.contains methodsVariable = true) (query : env.contains queryVariable = true) :
    load loader env file = load loader env otherFile := by
  rw [load_of_complete completed, load_of_complete alsoCompleted]
  simp only [get?_of_onlyAdds adds completed, get?_of_onlyAdds adds alsoCompleted, methods, query]

theorem settings_eq_of_onlyAdds (loaded : load loader env file = .ok settings)
    (alsoLoaded : load loader env otherFile = .ok others) :
    (env.contains methodsVariable = true → settings.methods = others.methods) ∧
      (env.contains queryVariable = true →
        settings.allowQueryString = others.allowQueryString) := by
  obtain ⟨full, completed⟩ := exists_complete_of_load loaded
  obtain ⟨otherFull, alsoCompleted⟩ := exists_complete_of_load alsoLoaded
  obtain ⟨methods, allowed⟩ := values_of_complete completed loaded
  obtain ⟨otherMethods, otherAllowed⟩ := values_of_complete alsoCompleted alsoLoaded
  constructor
  · intro set
    rw [methods, otherMethods, get?_of_onlyAdds adds completed set,
      get?_of_onlyAdds adds alsoCompleted set]
  · intro set
    rw [get?_of_onlyAdds adds completed set] at allowed
    rw [get?_of_onlyAdds adds alsoCompleted set] at otherAllowed
    exact Option.some.inj (allowed.symm.trans otherAllowed)

end Loader

theorem effective_of_contains {name : Text} (set : env.contains name = true) :
    effective env file name = env.get? name := by
  obtain ⟨value, held⟩ := Option.isSome_iff_exists.mp set
  simp [effective, held]

theorem load_refused_iff {loader : Loader} {error : VariableError} :
    load loader env file = .error (.refused error) ↔
      complete loader env file = .error (.refused error) := by
  rw [load]
  cases complete loader env file with
  | error failure => simp [Except.bind]
  | ok full =>
      rw [Except.bind, ofEnvironment_eq, ofValues]
      cases allowOf (full.get? queryVariable) with
      | none => simp
      | some allow => simp

theorem exists_load_refused_iff :
    (∃ error, load EnvFile.loader env file = .error (.refused error)) ↔ ¬Loadable env file := by
  simp only [load_refused_iff, ← exists_complete_iff]
  cases completed : complete EnvFile.loader env file with
  | ok full => simp
  | error failure =>
      obtain ⟨error, rfl, _⟩ := exists_of_complete_error completed
      simp

theorem exists_load_error_iff : (∃ failure, load EnvFile.loader env file = .error failure) ↔
    ¬Loadable env file ∨ ∃ value, effective env file queryVariable = some value ∧
      parseBool? value = none := by
  by_cases loadable : Loadable env file
  · obtain ⟨full, completed⟩ := exists_complete_iff.mpr loadable
    rw [exists_load_error_iff_of_complete completed, get?_complete completed]
    simp [loadable]
  · obtain ⟨error, refused⟩ := exists_load_refused_iff.mpr loadable
    exact iff_of_true ⟨_, refused⟩ (.inl loadable)

theorem values_of_load (loaded : load EnvFile.loader env file = .ok settings) :
    settings.methods = methodsOf (effective env file methodsVariable) ∧
      allowOf (effective env file queryVariable) = some settings.allowQueryString := by
  obtain ⟨full, completed⟩ := exists_complete_of_load loaded
  rw [← get?_complete completed, ← get?_complete completed]
  exact values_of_complete completed loaded

/-- The environment wins over the environment file, variable by variable, whichever loader reads the
file, as long as it only adds. Once the file is read, loading fails only if the second variable is
set and is no word for true or false, and each of the two settings depends on the value of its own
variable alone; without a value the setting is the preset one. So another file makes no difference
to what the environment sets, to whatever text: not to the one setting, and if it sets both, not to
the whole answer, an error included. The loader of this library is of this kind. A variable has with
it the value of the environment, and else that of the file, and a file is refused exactly for a
variable that the environment lacks and no process can have. -/
theorem environment_wins :
    (∀ loader : Loader, loader.OnlyAdds → ∀ env file,
      (∀ full, complete loader env file = .ok full →
        ((∃ failure, load loader env file = .error failure) ↔
          ∃ value, full.get? queryVariable = some value ∧
            (Text.strip value).map CodePoint.toLower ∉
              (["1", "true", "yes", "on", "0", "false", "no", "off"] : List Text)) ∧
        ∀ settings, load loader env file = .ok settings →
          settings.methods = methodsOf (full.get? methodsVariable) ∧
          allowOf (full.get? queryVariable) = some settings.allowQueryString) ∧
      (∀ error, load loader env file = .error (.refused error) ↔
        complete loader env file = .error (.refused error)) ∧
      ∀ otherFile,
        (∀ full otherFull, complete loader env file = .ok full →
          complete loader env otherFile = .ok otherFull → env.contains methodsVariable = true →
          env.contains queryVariable = true → load loader env file = load loader env otherFile) ∧
        ∀ settings others, load loader env file = .ok settings →
          load loader env otherFile = .ok others →
          (env.contains methodsVariable = true → settings.methods = others.methods) ∧
          (env.contains queryVariable = true →
            settings.allowQueryString = others.allowQueryString)) ∧
    EnvFile.loader.OnlyAdds ∧
    ∀ env file, let load := load EnvFile.loader env
      ((∃ error, load file = .error (.refused error)) ↔ ¬Loadable env file) ∧
      (∀ error, load file = .error (.refused error) →
        error ≠ .noName ∧ ∃ name value, env.get? name = none ∧
          fromFile env file name = some value ∧ Environment.Faulty name value error) ∧
      ((∃ failure, load file = .error failure) ↔ ¬Loadable env file ∨
        ∃ value, effective env file queryVariable = some value ∧
          (Text.strip value).map CodePoint.toLower ∉
            (["1", "true", "yes", "on", "0", "false", "no", "off"] : List Text)) ∧
      (∀ full, complete EnvFile.loader env file = .ok full →
        ∀ name, full.get? name = effective env file name) ∧
      (∀ settings, load file = .ok settings →
        settings.methods = methodsOf (effective env file methodsVariable) ∧
        allowOf (effective env file queryVariable) = some settings.allowQueryString) ∧
      ∀ otherFile,
        (Loadable env file → Loadable env otherFile → env.contains methodsVariable = true →
          env.contains queryVariable = true → load file = load otherFile) ∧
        ∀ settings others, load file = .ok settings → load otherFile = .ok others →
          (env.contains methodsVariable = true → settings.methods = others.methods) ∧
          (env.contains queryVariable = true →
            settings.allowQueryString = others.allowQueryString) := by
  refine ⟨?any, EnvFile.onlyAdds_loader, ?this⟩
  case any =>
    intro loader adds env file
    refine ⟨fun full completed => ⟨?_, fun settings => values_of_complete completed⟩,
      fun error => load_refused_iff,
      fun otherFile => ⟨fun full otherFull => load_eq_of_onlyAdds adds,
        fun settings others => settings_eq_of_onlyAdds adds⟩⟩
    simp only [exists_load_error_iff_of_complete completed, parseBool?_eq_none_iff]
  case this =>
    intro env file load
    have adds := EnvFile.onlyAdds_loader
    refine ⟨exists_load_refused_iff, ?blamed, ?failed, fun full => get?_complete,
      fun settings => values_of_load, ?wins⟩
    case blamed =>
      intro error refused
      obtain ⟨_, same, blamed⟩ := exists_of_complete_error (load_refused_iff.mp refused)
      obtain rfl := SettingsError.refused.inj same
      exact blamed
    case failed => simp only [load, exists_load_error_iff, parseBool?_eq_none_iff]
    case wins =>
      refine fun otherFile => ⟨fun loadable alsoLoadable => ?_,
        fun settings others => settings_eq_of_onlyAdds adds⟩
      obtain ⟨full, completed⟩ := exists_complete_iff.mpr loadable
      obtain ⟨otherFull, alsoCompleted⟩ := exists_complete_iff.mpr alsoLoadable
      exact load_eq_of_onlyAdds adds completed alsoCompleted

/-- A file that would change both settings, and cannot. -/
theorem environment_wins_sample :
    let env : Environment := Mapping.ofList [(methodsVariable, ""), (queryVariable, " No")]
    let file : Text := "CODEBIND_PKCE_METHODS='plain'\nCODEBIND_ALLOW_QUERY_STRING=maybe\n"
    let load := load EnvFile.loader env
    Loadable env (some file) ∧ load (some file) = load none ∧ load none = .ok ⟨[], false⟩ := by
  intro env file load
  have loads : (complete EnvFile.loader env (some file)).toOption.isSome = true := by
    decide +kernel
  obtain ⟨any, adds, _⟩ := environment_wins
  cases completed : complete EnvFile.loader env (some file) with
  | error failure => simp [completed, Except.toOption] at loads
  | ok full =>
      obtain ⟨_, _, wins⟩ := any EnvFile.loader adds env (some file)
      exact ⟨loadable_of_complete completed,
        (wins none).1 full env completed rfl (by decide) (by decide), rfl⟩

/-- A file can be refused for a variable that no setting is read from, and then makes a difference
although the environment sets both. -/
theorem file_can_be_refused :
    let env : Environment := Mapping.ofList [(methodsVariable, "S256"), (queryVariable, "true")]
    let file : Text := "'A=B'=x\n"
    let load := load EnvFile.loader env
    env.contains methodsVariable = true ∧ env.contains queryVariable = true ∧
      load (some file) ≠ load (some []) ∧
      ¬((∃ failure, load (some file) = .error failure) ↔
        ∃ value, effective env (some file) queryVariable = some value ∧
          (Text.strip value).map CodePoint.toLower ∉
            (["1", "true", "yes", "on", "0", "false", "no", "off"] : List Text)) := by
  intro env file load
  have refused : (load (some file)).toOption = none := by decide +kernel
  have read : (load (some [])).toOption = some ⟨[Transform.s256Id], true⟩ := by decide +kernel
  have set : effective env (some file) queryVariable = some "true" :=
    effective_of_contains (by decide)
  refine ⟨by decide, by decide, fun same => ?_, fun onlyWords => ?_⟩
  · rw [same, read] at refused
    simp at refused
  · cases result : load (some file) with
    | ok settings => simp [result, Except.toOption] at refused
    | error failure =>
        obtain ⟨value, held, noWord⟩ := onlyWords.mp ⟨failure, result⟩
        obtain rfl : Text.ofString "true" = value := Option.some.inj (set.symm.trans held)
        exact noWord (by decide)

end Reading

end ProofKey.Settings
