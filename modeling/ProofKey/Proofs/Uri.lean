import Mathlib.Data.List.TakeWhile
import ProofKey.Proofs.Scalar
import ProofKey.Uri

/-! # What stands in the parts of a URI

Each part ends at the first mark that can end it, so no part but the fragment
holds a `#`, and neither holds one but the query a `?`. What comes before the query
of a written URI is free of both marks. The authority alone decides whether a text
is a URI.
-/

namespace ProofKey.Uri

/-- An authority that a URI can have. Brackets come in both kinds, and the host that is read from
between them is an address that may stand there. No character hides a mark. -/
structure SoundAuthority (authority : Text) : Prop where
  paired : CodePoint.ofChar '[' ∈ authority ↔ CodePoint.ofChar ']' ∈ authority
  enclosing : CodePoint.ofChar '[' ∈ authority →
    ∃ host, bracketedHost authority = .ok host ∧ checkBracketed host = .ok ()
  plain : ∀ c ∈ authority, hidesMark c = false

section Authority

variable {t authority : Text} {u : Uri} {failure : UriError}

theorem map_eq_error_iff {α β : Type} {result : Except UriError α} {f : α → β} :
    result.map f = .error failure ↔ result = .error failure := by
  cases result <;> simp [Except.map]

theorem parse_eq_ok_iff :
    parse t = .ok u ↔ checkAuthority (parts t).authority = .ok () ∧ u = parts t := by
  rw [parse]
  cases checkAuthority (parts t).authority with
  | error failure => simp [Except.map]
  | ok _ => simp [Except.map, eq_comm]

theorem parse_error_iff :
    parse t = .error failure ↔ checkAuthority (parts t).authority = .error failure := by
  rw [parse, map_eq_error_iff]

theorem checkBrackets_eq_ok_iff : checkBrackets authority = .ok () ↔
    (CodePoint.ofChar '[' ∈ authority ↔ CodePoint.ofChar ']' ∈ authority) ∧
      (CodePoint.ofChar '[' ∈ authority →
        ∃ host, bracketedHost authority = .ok host ∧ checkBracketed host = .ok ()) := by
  unfold checkBrackets
  by_cases opening : CodePoint.ofChar '[' ∈ authority
  · by_cases closing : CodePoint.ofChar ']' ∈ authority
    · cases read : bracketedHost authority with
      | error failure => simp [opening, closing, Except.bind]
      | ok host => simp [opening, closing, Except.bind]
    · simp [opening, closing]
  · by_cases closing : CodePoint.ofChar ']' ∈ authority
    · simp [opening, closing]
    · simp [opening, closing]

theorem checkAuthority_eq_ok_iff :
    checkAuthority authority = .ok () ↔ SoundAuthority authority := by
  have sound_iff : SoundAuthority authority ↔
      checkBrackets authority = .ok () ∧ ∀ c ∈ authority, hidesMark c = false := by
    rw [checkBrackets_eq_ok_iff]
    exact ⟨fun ⟨paired, enclosing, plain⟩ => ⟨⟨paired, enclosing⟩, plain⟩,
      fun ⟨⟨paired, enclosing⟩, plain⟩ => ⟨paired, enclosing, plain⟩⟩
  rw [sound_iff, checkAuthority]
  cases checkBrackets authority with
  | error failure => simp [Except.bind]
  | ok _ => simp [Except.bind]

theorem exists_parse_error_iff :
    (∃ failure, parse t = .error failure) ↔ ¬SoundAuthority (parts t).authority := by
  simp only [parse_error_iff, ← checkAuthority_eq_ok_iff]
  cases checkAuthority (parts t).authority with
  | error failure => simp
  | ok _ => simp

end Authority

section Delimiters

variable {t : Text} {c : CodePoint} {u : Uri}

/-- No part has a mark that would have ended it. -/
structure Delimited (u : Uri) : Prop where
  scheme : ∀ c ∈ u.scheme, isSchemeChar c = true
  authority : ∀ c ∈ u.authority, endsAuthority c = false
  path : CodePoint.ofChar '?' ∉ u.path ∧ CodePoint.ofChar '#' ∉ u.path
  query : CodePoint.ofChar '#' ∉ u.query

theorem isSchemeChar_toLower (h : isSchemeChar c = true) : isSchemeChar c.toLower = true := by
  unfold CodePoint.toLower
  split
  · rename_i capital
    simp only [CodePoint.between, Bool.and_eq_true, decide_eq_true_eq] at capital
    have ends : 'A'.toNat = 65 ∧ 'Z'.toNat = 90 ∧ 'a'.toNat = 97 ∧ 'z'.toNat = 122 :=
      ⟨rfl, rfl, rfl, rfl⟩
    have number : (CodePoint.ofNat (c.value + 32)).value = c.value + 32 :=
      CodePoint.value_ofNat (by omega)
    have small : (CodePoint.ofNat (c.value + 32)).isLetter = true := by
      simp only [CodePoint.isLetter, CodePoint.between, number, Bool.or_eq_true, Bool.and_eq_true,
        decide_eq_true_eq]
      omega
    simp only [isSchemeChar, small, Bool.true_or]
  · exact h

theorem isSchemeChar_of_mem_splitScheme (member : c ∈ (splitScheme t).1) :
    isSchemeChar c = true := by
  unfold splitScheme at member
  split at member
  · split at member
    · rename_i first more rest found valid
      obtain ⟨d, origin, rfl⟩ := List.mem_map.mp member
      simp only [Bool.and_eq_true, List.all_eq_true] at valid
      exact isSchemeChar_toLower (valid.2 d origin)
    · simp at member
  · simp at member

theorem mem_of_mem_splitScheme (member : c ∈ (splitScheme t).2) : c ∈ t := by
  unfold splitScheme at member
  split at member
  · split at member
    · rename_i first more rest found valid
      have behind : c ∈ (Text.cut ':' t).2.getD [] := by rwa [found]
      exact Text.mem_of_mem_after_cut behind
    · exact member
  · exact member

theorem endsAuthority_of_mem_splitAuthority (member : c ∈ (splitAuthority t).1) :
    endsAuthority c = false := by
  unfold splitAuthority at member
  split at member
  · simpa using List.mem_takeWhile_imp member
  · simp at member

theorem mem_of_mem_afterSlashes {rest : Text} (found : afterSlashes? t = some rest)
    (member : c ∈ rest) : c ∈ t := by
  unfold afterSlashes? at found
  split at found
  · split at found
    · obtain rfl := Option.some.inj found
      exact List.mem_cons_of_mem _ (List.mem_cons_of_mem _ member)
    · simp at found
  · simp at found

theorem mem_of_mem_splitAuthority (member : c ∈ (splitAuthority t).2) : c ∈ t := by
  unfold splitAuthority at member
  split at member
  · rename_i rest found
    exact mem_of_mem_afterSlashes found ((List.dropWhile_sublist _).mem member)
  · exact member

theorem mem_of_mem_clean (member : c ∈ clean t) : c ∈ t :=
  (List.dropWhile_sublist _).mem (List.mem_filter.mp member).1

theorem delimited_parts (t : Text) : (parts t).Delimited where
  scheme _ := isSchemeChar_of_mem_splitScheme
  authority _ := endsAuthority_of_mem_splitAuthority
  path := ⟨Text.not_mem_cut _, fun member => Text.not_mem_cut _ (Text.mem_of_mem_cut member)⟩
  query := fun member => Text.not_mem_cut _ (Text.mem_of_mem_after_cut member)

theorem scalar_query_parts (scalar : t.Scalar) : (parts t).query.Scalar := by
  have rest : Text.Scalar (splitAuthority (splitScheme (clean t)).2).2 := fun c member =>
    scalar c (mem_of_mem_clean (mem_of_mem_splitScheme (mem_of_mem_splitAuthority member)))
  exact rest.cut.after_cut

theorem mem_rootedPath {path : Text} (member : c ∈ rootedPath path) :
    c = CodePoint.ofChar '/' ∨ c ∈ path := by
  unfold rootedPath at member
  split at member
  · simp at member
  · split at member
    · exact .inr member
    · exact List.mem_cons.mp member

theorem Delimited.not_mem_front (delimited : u.Delimited)
    (mark : c = CodePoint.ofChar '?' ∨ c = CodePoint.ofChar '#') :
    c ∉ u.schemeText ++ u.hierText := by
  have path : c ∉ u.path := by
    rcases mark with rfl | rfl
    · exact delimited.path.1
    · exact delimited.path.2
  have noneElse : isSchemeChar c = false ∧ endsAuthority c = true ∧ c ≠ CodePoint.ofChar ':' ∧
      c ≠ CodePoint.ofChar '/' := by
    rcases mark with rfl | rfl <;> decide
  obtain ⟨scheme, authority, colon, slash⟩ := noneElse
  intro member
  rcases List.mem_append.mp member with front | hier
  · unfold schemeText at front
    split at front
    · simp at front
    · rcases List.mem_append.mp front with inScheme | last
      · simp [delimited.scheme c inScheme] at scheme
      · exact colon (List.mem_singleton.mp last)
  · unfold hierText at hier
    split at hier
    · rcases List.mem_append.mp hier with front | inPath
      · rcases List.mem_append.mp front with slashes | inAuthority
        · have only : ∀ d ∈ Text.ofString "//", d = CodePoint.ofChar '/' := by decide
          exact slash (only c slashes)
        · simp [delimited.authority c inAuthority] at authority
      · exact (mem_rootedPath inPath).elim slash path
    · exact path hier

end Delimiters

section Marked

variable {part : Text}

theorem marked_of_ne_nil (mark : CodePoint) (nonempty : part ≠ []) :
    marked mark part = mark :: part := by
  rw [marked, if_neg (by simpa using nonempty)]

theorem marked_cases (mark : CodePoint) (part : Text) :
    marked mark part = [] ∨ ∃ shown, marked mark part = mark :: shown := by
  by_cases empty : part = []
  · exact .inl (by simp [marked, empty])
  · exact .inr ⟨part, marked_of_ne_nil mark empty⟩

end Marked

end ProofKey.Uri
