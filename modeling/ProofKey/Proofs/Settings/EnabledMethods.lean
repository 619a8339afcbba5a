import ProofKey.Proofs.Registry
import ProofKey.Proofs.Settings.MethodList
import ProofKey.Proofs.Transform

/-! # Which methods the settings enable

The list of methods counts as a set. One name in it that is not built in spoils the
whole list, and the first such name is the one that is complained of. Otherwise `plain`
is enabled whether it is named or not, and S256 if it is named, however often and
wherever.
-/

namespace ProofKey

namespace Transform

def Foreign (methodId : Text) : Prop := methodId ≠ plainId ∧ methodId ≠ s256Id

variable {t : Transform} {methodId : Text}

theorem builtIn?_eq_none_iff : builtIn? methodId = none ↔ Foreign methodId := by
  simp only [builtIn?, List.find?_eq_none, mem_builtIn_iff, decide_eq_true_eq, Foreign]
  constructor
  · intro absent
    exact ⟨fun same => absent .plain (.inr rfl) same.symm,
      fun same => absent .s256 (.inl rfl) same.symm⟩
  · rintro ⟨notPlain, notS256⟩ t (rfl | rfl) same
    · exact notS256 same.symm
    · exact notPlain same.symm

theorem of_builtIn? (found : builtIn? methodId = some t) :
    t ∈ builtIn ∧ t.methodId = methodId :=
  ⟨List.mem_of_find?_eq_some found, by simpa using List.find?_some found⟩

theorem not_foreign_of_mem (known : t ∈ builtIn) : ¬Foreign t.methodId := by
  rcases mem_builtIn_iff.mp known with rfl | rfl
  · exact fun foreign => foreign.2 rfl
  · exact fun foreign => foreign.1 rfl

end Transform

namespace Registry

open Transform (Foreign)

variable {names : List Text} {ts : List Transform} {r : Registry} {error : OAuthError}
  {failure : Failure}

section BuiltIn

theorem builtInTransforms_ok (h : builtInTransforms names = .ok ts) :
    ts.map (·.methodId) = names ∧ ∀ t ∈ ts, t ∈ Transform.builtIn := by
  induction names generalizing ts with
  | nil =>
      obtain rfl : [] = ts := Except.ok.inj h
      simp
  | cons name more ih =>
      cases found : Transform.builtIn? name with
      | none => simp [builtInTransforms, found] at h
      | some t =>
          cases later : builtInTransforms more with
          | error refusal => simp [builtInTransforms, found, later, Except.map] at h
          | ok rest =>
              obtain rfl : t :: rest = ts := by
                simpa [builtInTransforms, found, later, Except.map] using h
              obtain ⟨known, rfl⟩ := Transform.of_builtIn? found
              obtain ⟨same, below⟩ := ih later
              exact ⟨congrArg (t.methodId :: ·) same, List.forall_mem_cons.mpr ⟨known, below⟩⟩

theorem builtInTransforms_error (h : builtInTransforms names = .error error) :
    ∃ before name later, names = before ++ name :: later ∧ Foreign name ∧
      (∀ known ∈ before, ¬Foreign known) ∧ error.kind = .unsupportedMethod (some name) := by
  induction names with
  | nil => simp [builtInTransforms] at h
  | cons name more ih =>
      cases found : Transform.builtIn? name with
      | none =>
          obtain rfl : _ = error := by simpa [builtInTransforms, found] using h
          exact ⟨[], name, more, rfl, Transform.builtIn?_eq_none_iff.mp found, by simp, rfl⟩
      | some t =>
          have below : builtInTransforms more = .error error := by
            cases later : builtInTransforms more with
            | error refusal => simpa [builtInTransforms, found, later, Except.map] using h
            | ok rest => simp [builtInTransforms, found, later, Except.map] at h
          obtain ⟨before, first, later, rfl, foreign, known, kind⟩ := ih below
          have here : ¬Foreign name := by
            simp [← Transform.builtIn?_eq_none_iff, found]
          exact ⟨name :: before, first, later, rfl, foreign,
            List.forall_mem_cons.mpr ⟨here, known⟩, kind⟩

theorem eraseDups_of_all_eq {texts : List Text} {text : Text} (all : ∀ t ∈ texts, t = text) :
    texts.eraseDups = if text ∈ texts then [text] else [] := by
  cases texts with
  | nil => rfl
  | cons first more =>
      obtain ⟨rfl, same⟩ := List.forall_mem_cons.mp all
      have rest : more.filter (fun t => !t == first) = [] := by
        simpa [List.filter_eq_nil_iff] using same
      simp [List.eraseDups_cons, rest]

theorem idsInOrder_of_builtIn (known : ∀ t ∈ ts, t ∈ Transform.builtIn) :
    idsInOrder ts = if Transform.s256Id ∈ ts.map (·.methodId) then
      [Transform.plainId, Transform.s256Id] else [Transform.plainId] := by
  have apart : Transform.s256Id ≠ Transform.plainId := by decide
  have all : ∀ id ∈ (ts.map (·.methodId)).filter fun id => id ≠ Transform.plainId,
      id = Transform.s256Id := by
    intro id member
    obtain ⟨listed, other⟩ := List.mem_filter.mp member
    obtain ⟨t, held, rfl⟩ := List.mem_map.mp listed
    rcases Transform.mem_builtIn_iff.mp (known t held) with rfl | rfl
    · rfl
    · simp [Transform.plain] at other
  rw [idsInOrder, eraseDups_of_all_eq all]
  simp only [List.mem_filter, apart, ne_eq, not_false_eq_true, decide_true, and_true]
  split <;> rfl

theorem lastFor_of_builtIn (known : ∀ t ∈ ts, t ∈ Transform.builtIn) (methodId : Text) :
    lastFor ts methodId =
      if methodId = Transform.plainId then some .plain
      else if methodId = Transform.s256Id ∧ Transform.s256Id ∈ ts.map (·.methodId) then some .s256
      else none := by
  unfold lastFor
  cases last : (ts.filter fun t => t.methodId = methodId).getLast? with
  | none =>
      have unnamed : methodId ∉ ts.map (·.methodId) := by
        simpa [List.filter_eq_nil_iff] using List.getLast?_eq_none_iff.mp last
      have other : ¬(methodId = Transform.s256Id ∧ Transform.s256Id ∈ ts.map (·.methodId)) := by
        rintro ⟨rfl, named⟩
        exact unnamed named
      rw [Option.none_or, if_neg other]
  | some t =>
      obtain ⟨held, same⟩ := List.mem_filter.mp (List.mem_of_getLast? last)
      obtain rfl : t.methodId = methodId := of_decide_eq_true same
      have named : t.methodId ∈ ts.map (·.methodId) := List.mem_map_of_mem held
      rcases Transform.mem_builtIn_iff.mp (known t held) with rfl | rfl
      · have apart : Transform.s256.methodId ≠ Transform.plainId := by decide
        rw [Option.some_or, if_neg apart, if_pos ⟨rfl, named⟩]
      · rfl

end BuiltIn

section Making

theorem result_ofMethodIds (names : List Text) : (ofMethodIds names).result =
    ((builtInTransforms names).mapError .refused).map initial.registerAll := by
  unfold ofMethodIds
  cases builtInTransforms names with
  | error refusal => rfl
  | ok ts => rfl

theorem ofMethodIds_error (refused : (ofMethodIds names).result = .error failure) :
    ∃ error before name later, failure = .refused error ∧
      error.kind = .unsupportedMethod (some name) ∧ names = before ++ name :: later ∧
      Foreign name ∧ ∀ known ∈ before, ¬Foreign known := by
  rw [result_ofMethodIds] at refused
  cases made : builtInTransforms names with
  | error error =>
      obtain ⟨before, name, later, whole, foreign, known, kind⟩ := builtInTransforms_error made
      refine ⟨error, before, name, later, ?_, kind, whole, foreign, known⟩
      rw [made] at refused
      exact (Except.error.inj refused).symm
  | ok ts =>
      rw [made] at refused
      cases refused

theorem ofMethodIds_ok (made : (ofMethodIds names).result = .ok r) :
    (∀ name ∈ names, ¬Foreign name) ∧
    r.ids = (if Transform.s256Id ∈ names then [Transform.plainId, Transform.s256Id]
      else [Transform.plainId]) ∧
    ∀ methodId, r.get? methodId =
      if methodId = Transform.plainId then some .plain
      else if methodId = Transform.s256Id ∧ Transform.s256Id ∈ names then some .s256
      else none := by
  rw [result_ofMethodIds] at made
  cases listed : builtInTransforms names with
  | error refusal =>
      rw [listed] at made
      cases made
  | ok ts =>
      rw [listed] at made
      obtain rfl : initial.registerAll ts = r := Except.ok.inj made
      obtain ⟨rfl, known⟩ := builtInTransforms_ok listed
      refine ⟨?builtIn, ?order, ?held⟩
      case builtIn =>
        intro name member
        obtain ⟨t, held, rfl⟩ := List.mem_map.mp member
        exact Transform.not_foreign_of_mem (known t held)
      case order => rw [ids_registerAll, idsInOrder_of_builtIn known]
      case held =>
        intro methodId
        rw [get?_registerAll, lastFor_of_builtIn known]

theorem ofMethodIds_error_iff :
    (∃ failure, (ofMethodIds names).result = .error failure) ↔ ∃ name ∈ names, Foreign name := by
  constructor
  · rintro ⟨failure, refused⟩
    obtain ⟨_, before, name, later, _, _, rfl, foreign, _⟩ := ofMethodIds_error refused
    exact ⟨name, by simp, foreign⟩
  · rintro ⟨name, member, foreign⟩
    cases made : (ofMethodIds names).result with
    | error failure => exact ⟨failure, rfl⟩
    | ok r => exact absurd foreign ((ofMethodIds_ok made).1 name member)

/-- Two registries that no reader tells apart. -/
def Equivalent (r other : Registry) : Prop :=
  r.ids = other.ids ∧ ∀ methodId, r.get? methodId = other.get? methodId

/-- Lists that name the same ids make equivalent registries, or are both refused. -/
theorem ofMethodIds_congr {others : List Text} (same : ∀ name, name ∈ others ↔ name ∈ names) :
    (∃ r other, (ofMethodIds names).result = .ok r ∧ (ofMethodIds others).result = .ok other ∧
      r.Equivalent other) ∨
    ((∃ failure, (ofMethodIds names).result = .error failure) ∧
      ∃ failure, (ofMethodIds others).result = .error failure) := by
  have together : (∃ failure, (ofMethodIds others).result = .error failure) ↔
      ∃ failure, (ofMethodIds names).result = .error failure := by
    simp only [ofMethodIds_error_iff, same]
  cases made : (ofMethodIds names).result with
  | error failure => exact .inr ⟨⟨failure, rfl⟩, together.mpr ⟨failure, made⟩⟩
  | ok r =>
      cases alsoMade : (ofMethodIds others).result with
      | error failure =>
          obtain ⟨_, refused⟩ := together.mp ⟨failure, alsoMade⟩
          simp [made] at refused
      | ok other =>
          obtain ⟨_, order, held⟩ := ofMethodIds_ok made
          obtain ⟨_, alsoOrder, alsoHeld⟩ := ofMethodIds_ok alsoMade
          refine .inl ⟨r, other, rfl, rfl, ?_, ?_⟩
          · simp only [order, alsoOrder, same]
          · intro methodId
            simp only [held, alsoHeld, same]

end Making

end Registry

namespace Settings

open Transform (Foreign)

variable {loader : Loader} {env : Environment} {file : Option Text} {value : Text}

/-- The list of methods has this value once the environment file is read, and the other variable
can be read too, if it is set. -/
def Effective (loader : Loader) (env : Environment) (file : Option Text) (value : Text) : Prop :=
  ∃ full, complete loader env file = .ok full ∧ full.get? methodsVariable = some value ∧
    ∀ word, full.get? queryVariable = some word → ∃ allow, parseBool? word = some allow

theorem load_of_effective (effective : Effective loader env file value) :
    ∃ settings, load loader env file = .ok settings ∧ settings.methods = parseMethods value := by
  obtain ⟨full, completed, set, readable⟩ := effective
  simp only [load, completed, Except.bind, ofEnvironment, set]
  cases query : full.get? queryVariable with
  | none => exact ⟨_, rfl, rfl⟩
  | some word =>
      obtain ⟨allow, read⟩ := readable word query
      simp only [read]
      exact ⟨_, rfl, rfl⟩

/-- The list of methods counts as the set of what it names. The settings can be read, and the
registry is refused exactly if a name is not built in; the error then holds the first such name. A
registry that is made holds `plain`, and S256 behind it if that is named, and the built-in
transforms for them. Wherever a list names the same, in whichever order, however often, with
whatever blanks and blank pieces, its registry is equivalent, or is refused too. -/
theorem methods_count_as_set (effective : Effective loader env file value) :
    ∃ settings, load loader env file = .ok settings ∧
      (∀ names, Lists value names ↔ names = settings.methods) ∧
      ((∃ failure, settings.registry.result = .error failure) ↔
        ∃ name ∈ settings.methods, Foreign name) ∧
      (∀ failure, settings.registry.result = .error failure →
        ∃ error before name later, failure = .refused error ∧
          error.kind = .unsupportedMethod (some name) ∧
          settings.methods = before ++ name :: later ∧
          Foreign name ∧ ∀ known ∈ before, ¬Foreign known) ∧
      (∀ r, settings.registry.result = .ok r →
        r.ids = (if Transform.s256Id ∈ settings.methods
          then [Transform.plainId, Transform.s256Id] else [Transform.plainId]) ∧
        r.get? Transform.plainId = some .plain ∧
        (Transform.s256Id ∈ settings.methods → r.get? Transform.s256Id = some .s256)) ∧
      ∀ otherEnv otherFile otherValue, Effective loader otherEnv otherFile otherValue →
        ∃ others, load loader otherEnv otherFile = .ok others ∧
          ((∀ name, name ∈ others.methods ↔ name ∈ settings.methods) →
            (∃ r other, settings.registry.result = .ok r ∧ others.registry.result = .ok other ∧
              r.Equivalent other) ∨
            ((∃ failure, settings.registry.result = .error failure) ∧
              ∃ failure, others.registry.result = .error failure)) := by
  obtain ⟨settings, loaded, methods⟩ := load_of_effective effective
  refine ⟨settings, loaded, ?named, Registry.ofMethodIds_error_iff,
    fun _ => Registry.ofMethodIds_error, ?made, ?alike⟩
  case named =>
    intro names
    rw [← parseMethods_eq_iff, methods, eq_comm]
  case made =>
    intro r made
    obtain ⟨_, order, held⟩ := Registry.ofMethodIds_ok made
    have apart : Transform.s256Id ≠ Transform.plainId := by decide
    refine ⟨order, ?_, ?_⟩
    · rw [held, if_pos rfl]
    · intro named
      rw [held, if_neg apart, if_pos ⟨rfl, named⟩]
  case alike =>
    intro otherEnv otherFile otherValue another
    obtain ⟨others, alsoLoaded, _⟩ := load_of_effective another
    exact ⟨others, alsoLoaded, Registry.ofMethodIds_congr⟩

/-- Two ways to write down the same methods. -/
theorem methods_count_as_set_sample :
    let env : Environment := Mapping.ofList [(methodsVariable, "S256,plain")]
    let other : Environment := Mapping.ofList [(queryVariable, " No"),
      (methodsVariable, " plain ,, S256,S256")]
    ∃ settings others r s, load EnvFile.loader env none = .ok settings ∧
      load EnvFile.loader other none = .ok others ∧
      settings.registry.result = .ok r ∧ others.registry.result = .ok s ∧ r.Equivalent s ∧
      r.ids = [Transform.plainId, Transform.s256Id] := by
  intro env other
  have unset : env.get? queryVariable = none := by decide +kernel
  have query : other.get? queryVariable = some " No" := by decide +kernel
  have effective : Effective EnvFile.loader env none "S256,plain" :=
    ⟨env, rfl, by decide +kernel, fun word set => by simp [unset] at set⟩
  have another : Effective EnvFile.loader other none " plain ,, S256,S256" := by
    refine ⟨other, rfl, by decide +kernel, fun word set => ⟨false, ?_⟩⟩
    obtain rfl : Text.ofString " No" = word := Option.some.inj (query.symm.trans set)
    decide +kernel
  obtain ⟨settings, loaded, named, refused, _, made, alike⟩ := methods_count_as_set effective
  obtain ⟨others, alsoLoaded, same⟩ := alike _ _ _ another
  have methods : [Transform.s256Id, Transform.plainId] = settings.methods :=
    (named _).mp (parseMethods_eq_iff.mp (by decide +kernel))
  have otherMethods : others.methods =
      [Transform.plainId, Transform.s256Id, Transform.s256Id] := by
    have read : load EnvFile.loader other none =
        .ok ⟨[Transform.plainId, Transform.s256Id, Transform.s256Id], false⟩ := rfl
    rw [← Except.ok.inj (read.symm.trans alsoLoaded)]
  obtain ⟨r, s, first, second, equivalent⟩ | ⟨failed, _⟩ :=
    same (by simp [← methods, otherMethods, or_comm])
  · obtain ⟨order, _, _⟩ := made r first
    refine ⟨settings, others, r, s, loaded, alsoLoaded, first, second, equivalent, ?_⟩
    rw [order, if_pos (by simp [← methods])]
  · obtain ⟨name, member, foreign⟩ := refused.mp failed
    rw [← methods] at member
    simp only [List.mem_cons, List.not_mem_nil, or_false] at member
    rcases member with rfl | rfl
    · exact absurd rfl foreign.2
    · exact absurd rfl foreign.1

end Settings

end ProofKey
