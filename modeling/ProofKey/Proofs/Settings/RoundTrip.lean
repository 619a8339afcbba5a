import ProofKey.Proofs.Settings.EnabledMethods

/-! # Lists of methods are read as they are written

A list of ids may be written with blanks around each id, and with blank pieces
anywhere. As long as no id is empty, has a comma or ends in blanks, reading gives back
the ids; and whatever is read, the ids are of this kind, so that they can be written
and read again.
-/

namespace ProofKey

namespace Text

variable {t padded piece : Text}

theorem Padded.refl (t : Text) : t.Padded t :=
  ⟨[], [], by simp, by simp, by simp⟩

theorem Padded.mem {c : CodePoint} (around : t.Padded padded) (member : c ∈ t) : c ∈ padded := by
  obtain ⟨left, right, rfl, _⟩ := around
  exact List.mem_append_left right (List.mem_append_right left member)

theorem strip_of_blank (blank : ∀ c ∈ piece, isBlank c = true) : strip piece = [] :=
  strip_of_padded ⟨by simp, by simp⟩ ⟨piece, [], by simp, blank, by simp⟩

theorem strip_strip (padded : Text) : strip (strip padded) = strip padded :=
  strip_of_padded (trimmed_strip padded) (.refl _)

end Text

namespace Settings

/-- An id that can stand in a list of ids. -/
structure Clean (id : Text) : Prop where
  nonempty : id ≠ []
  noComma : comma ∉ id
  stripped : Text.strip id = id

/-- Pieces that spell some ids. -/
inductive Spells : List Text → List Text → Prop where
  /-- No pieces spell no ids. -/
  | none : Spells [] []
  /-- A blank piece may stand anywhere. -/
  | blank {ids pieces : List Text} {piece : Text} :
      (∀ c ∈ piece, Text.isBlank c = true) → Spells ids pieces → Spells ids (piece :: pieces)
  /-- An id has blanks around it, or none. -/
  | id {ids pieces : List Text} {id piece : Text} :
      id.Padded piece → Spells ids pieces → Spells (id :: ids) (piece :: pieces)

variable {ids pieces : List Text} {value name piece : Text}

theorem comma_not_mem_of_blank (blank : ∀ c ∈ piece, Text.isBlank c = true) : comma ∉ piece :=
  fun member => absurd (blank comma member) (by decide)

theorem comma_not_mem_of_padded (clean : comma ∉ name) (around : name.Padded piece) :
    comma ∉ piece := by
  obtain ⟨left, right, rfl, leftBlank, rightBlank⟩ := around
  simp only [List.mem_append, not_or]
  exact ⟨⟨comma_not_mem_of_blank leftBlank, clean⟩, comma_not_mem_of_blank rightBlank⟩

namespace Spells

theorem refl (ids : List Text) : Spells ids ids := by
  induction ids with
  | nil => exact .none
  | cons id more ih => exact .id (.refl id) ih

theorem noComma (spelled : Spells ids pieces) (clean : ∀ id ∈ ids, Clean id) :
    ∀ piece ∈ pieces, comma ∉ piece := by
  induction spelled with
  | none => simp
  | blank blank _ ih =>
      exact List.forall_mem_cons.mpr ⟨comma_not_mem_of_blank blank, ih clean⟩
  | id around _ ih =>
      obtain ⟨here, later⟩ := List.forall_mem_cons.mp clean
      exact List.forall_mem_cons.mpr ⟨comma_not_mem_of_padded here.noComma around, ih later⟩

theorem stripped (spelled : Spells ids pieces) (clean : ∀ id ∈ ids, Clean id) :
    (pieces.map Text.strip).filter (fun text => !text.isEmpty) = ids := by
  induction spelled with
  | none => rfl
  | blank blank _ ih =>
      rw [List.map_cons, Text.strip_of_blank blank]
      exact ih clean
  | @id ids pieces id piece around _ ih =>
      obtain ⟨here, later⟩ := List.forall_mem_cons.mp clean
      have trimmed : id.Trimmed := (Text.strip_eq_iff.mp here.stripped).1
      rw [List.map_cons, Text.strip_of_padded trimmed around, List.filter_cons, ih later]
      simp [here.nonempty]

end Spells

theorem parseMethods_of_spells (spelled : Spells ids pieces) (clean : ∀ id ∈ ids, Clean id) :
    parseMethods (List.intercalate [comma] pieces) = ids := by
  rw [parseMethods_join (spelled.noComma clean), spelled.stripped clean]

theorem clean_of_mem_parseMethods (named : name ∈ parseMethods value) : Clean name := by
  obtain ⟨stripped, nonempty⟩ := List.mem_filter.mp named
  obtain ⟨piece, among, rfl⟩ := List.mem_map.mp stripped
  refine ⟨by simpa using nonempty, fun member => ?_, Text.strip_strip piece⟩
  exact Text.not_mem_of_mem_splitOn among ((Text.padded_strip piece).mem member)

/-- A list of methods that is written with clean ids gives just these, in their order, whatever
blanks stand around them and whatever blank pieces among them. The methods that any list gives are
clean, and with commas between them are a list that gives the same methods again. -/
theorem methods_round_trip {loader : Loader} {env : Environment} {file : Option Text}
    (effective : Effective loader env file value) :
    ∃ settings, load loader env file = .ok settings ∧
      (∀ ids pieces, (∀ id ∈ ids, Clean id) → Spells ids pieces →
        value = List.intercalate [comma] pieces → settings.methods = ids) ∧
      (∀ id ∈ settings.methods, Clean id) ∧
      ∀ otherEnv otherFile,
        Effective loader otherEnv otherFile (List.intercalate [comma] settings.methods) →
        ∃ others, load loader otherEnv otherFile = .ok others ∧
          others.methods = settings.methods := by
  obtain ⟨settings, loaded, methods⟩ := load_of_effective effective
  have clean : ∀ id ∈ settings.methods, Clean id := by
    intro id named
    rw [methods] at named
    exact clean_of_mem_parseMethods named
  refine ⟨settings, loaded, ?written, clean, ?again⟩
  case written =>
    rintro ids pieces clean spelled rfl
    rw [methods, parseMethods_of_spells spelled clean]
  case again =>
    intro otherEnv otherFile another
    obtain ⟨others, alsoLoaded, read⟩ := load_of_effective another
    refine ⟨others, alsoLoaded, ?_⟩
    rw [read, parseMethods_of_spells (.refl _) clean]

/-- Blank pieces at both ends and in the middle, blanks of other scripts, and one within an id. -/
theorem methods_round_trip_sample :
    let env : Environment := Mapping.ofList [(methodsVariable, ",\u3000S256,\t, a b\u00a0,")]
    ∃ settings, load EnvFile.loader env none = .ok settings ∧
      settings.methods = [Transform.s256Id, Text.ofString "a b"] := by
  intro env
  have unset : env.get? queryVariable = none := by decide +kernel
  have effective : Effective EnvFile.loader env none ",\u3000S256,\t, a b\u00a0," :=
    ⟨env, rfl, by decide +kernel, fun word set => by simp [unset] at set⟩
  have clean : ∀ id ∈ [Transform.s256Id, Text.ofString "a b"], Clean id := by
    intro id member
    simp only [List.mem_cons, List.not_mem_nil, or_false] at member
    rcases member with rfl | rfl
    · exact ⟨by decide, by decide, by decide⟩
    · exact ⟨by decide, by decide, by decide⟩
  have first : Transform.s256Id.Padded "\u3000S256" :=
    ⟨"\u3000", [], rfl, by decide, by decide⟩
  have second : (Text.ofString "a b").Padded " a b\u00a0" :=
    ⟨" ", "\u00a0", rfl, by decide, by decide⟩
  have spelled : Spells [Transform.s256Id, Text.ofString "a b"]
      ["", "\u3000S256", "\t", " a b\u00a0", ""] :=
    .blank (by decide) (.id first (.blank (by decide) (.id second (.blank (by decide) .none))))
  obtain ⟨settings, loaded, written, _⟩ := methods_round_trip effective
  exact ⟨settings, loaded, written _ _ clean spelled (by decide)⟩

end Settings

end ProofKey
