import ProofKey.Proofs.Uri

/-! # Writing a URI and splitting it again

What splitting a text gives can be written and split again, and in all but two cases
the parts are the same. Behind an authority that is written for the scheme's sake, a
path gets a slash before it. And where no authority is written, two slashes at the
start of the path are taken for the marks of one.
-/

namespace ProofKey

namespace CodePoint

variable {c : CodePoint}

theorem toLower_of_between (capital : between 'A' 'Z' c = true) :
    between 'a' 'z' c.toLower = true ∧ between 'A' 'Z' c.toLower = false := by
  have small : c.toLower = ofNat (c.value + 32) := by rw [toLower, if_pos capital]
  have ends : 'A'.toNat = 65 ∧ 'Z'.toNat = 90 ∧ 'a'.toNat = 97 ∧ 'z'.toNat = 122 :=
    ⟨rfl, rfl, rfl, rfl⟩
  simp only [between, Bool.and_eq_true, decide_eq_true_eq] at capital
  rw [small]
  simp only [between, value_ofNat (show c.value + 32 ≤ 0x10FFFF by omega), ← Bool.decide_and,
    decide_eq_true_eq, decide_eq_false_iff_not]
  omega

theorem toLower_toLower (c : CodePoint) : c.toLower.toLower = c.toLower := by
  cases capital : between 'A' 'Z' c with
  | false =>
      have same : c.toLower = c := by simp [toLower, capital]
      rw [same, same]
  | true => rw [toLower, (toLower_of_between capital).2, if_neg Bool.false_ne_true]

theorem isLetter_toLower (letter : c.isLetter = true) : c.toLower.isLetter = true := by
  cases capital : between 'A' 'Z' c with
  | false =>
      have same : c.toLower = c := by simp [toLower, capital]
      rwa [same]
  | true => rw [isLetter, (toLower_of_between capital).1, Bool.true_or]

end CodePoint

namespace Uri

section Tail

variable {t tail : Text} {c : CodePoint}

/-- What can stand behind a path: nothing, or a query or fragment with its mark. -/
def IsTail (t : Text) : Prop :=
  ∀ c ∈ t.head?, c = CodePoint.ofChar '?' ∨ c = CodePoint.ofChar '#'

theorem IsTail.head (behind : IsTail tail) (first : c ∈ tail.head?) :
    isSchemeChar c = false ∧ c ≠ CodePoint.ofChar ':' ∧ endsAuthority c = true ∧
      c ≠ CodePoint.ofChar '/' ∧ 0x20 < c.value := by
  rcases behind c first with rfl | rfl <;> decide

theorem takeWhile_append_of_head {p : CodePoint → Bool} (stops : ∀ c ∈ tail.head?, p c = false) :
    (t ++ tail).takeWhile p = t.takeWhile p := by
  induction t with
  | nil =>
      cases tail with
      | nil => rfl
      | cons c rest => simp [stops c rfl]
  | cons c rest ih => rw [List.cons_append, List.takeWhile_cons, List.takeWhile_cons, ih]

theorem dropWhile_append_of_head {p : CodePoint → Bool} (stops : ∀ c ∈ tail.head?, p c = false) :
    (t ++ tail).dropWhile p = t.dropWhile p ++ tail := by
  induction t with
  | nil =>
      cases tail with
      | nil => rfl
      | cons c rest => simp [stops c rfl]
  | cons c rest ih =>
      rw [List.cons_append, List.dropWhile_cons, List.dropWhile_cons, ih]
      split <;> rfl

theorem IsTail.append {more : Text} (first : IsTail tail) (second : IsTail more) :
    IsTail (tail ++ more) := by
  cases tail with
  | nil => exact second
  | cons c rest => exact first

theorem isTail_marked {mark : CodePoint}
    (ends : mark = CodePoint.ofChar '?' ∨ mark = CodePoint.ofChar '#') (part : Text) :
    IsTail (marked mark part) := by
  rcases marked_cases mark part with none | ⟨shown, written⟩
  · simp [IsTail, none]
  · simpa [IsTail, written] using ends

theorem exists_cut_tail {mark : CodePoint}
    (ends : mark = CodePoint.ofChar '?' ∨ mark = CodePoint.ofChar '#') (t : Text) :
    ∃ tail, IsTail tail ∧ t = (t.cut mark).1 ++ tail := by
  have whole := @Text.eq_of_cut mark t
  cases found : (t.cut mark).2 with
  | none =>
      rw [found] at whole
      exact ⟨[], by simp [IsTail], by simpa using whole⟩
  | some rest =>
      rw [found] at whole
      exact ⟨mark :: rest, by simpa [IsTail] using ends, whole⟩

end Tail

section Scheme

variable {t front tail s rest : Text}

structure IsScheme (s : Text) : Prop where
  start : ∃ c more, s = c :: more ∧ c.isLetter = true
  chars : ∀ c ∈ s, isSchemeChar c = true

/-- A text that does not start with a scheme and its colon. -/
def Schemeless (t : Text) : Prop := ∀ s rest, IsScheme s → t ≠ s ++ CodePoint.ofChar ':' :: rest

theorem IsScheme.colon_not_mem (valid : IsScheme s) : CodePoint.ofChar ':' ∉ s := by
  intro member
  have other : isSchemeChar (CodePoint.ofChar ':') = false := by decide
  simp [valid.chars _ member] at other

theorem IsScheme.map_toLower (valid : IsScheme s) : IsScheme (s.map CodePoint.toLower) where
  start := by
    obtain ⟨c, more, rfl, letter⟩ := valid.start
    exact ⟨c.toLower, more.map CodePoint.toLower, rfl, CodePoint.isLetter_toLower letter⟩
  chars := by
    intro c member
    obtain ⟨d, origin, rfl⟩ := List.mem_map.mp member
    exact isSchemeChar_toLower (valid.chars d origin)

theorem splitScheme_of_isScheme (valid : IsScheme s) (rest : Text) :
    splitScheme (s ++ CodePoint.ofChar ':' :: rest) = (s.map CodePoint.toLower, rest) := by
  have parted := Text.cut_append valid.colon_not_mem rest
  obtain ⟨c, more, rfl, letter⟩ := valid.start
  have all : (c :: more).all isSchemeChar = true := List.all_eq_true.mpr valid.chars
  rw [splitScheme, parted]
  simp only [letter, all, Bool.and_self, if_true]

theorem splitScheme_of_schemeless (schemeless : Schemeless t) : splitScheme t = ([], t) := by
  unfold splitScheme
  split
  · rename_i first more rest found
    split
    · rename_i valid
      simp only [Bool.and_eq_true, List.all_eq_true] at valid
      have whole := @Text.eq_of_cut ':' t
      simp only [found] at whole
      exact absurd whole (schemeless (first :: more) rest ⟨⟨first, more, rfl, valid.1⟩, valid.2⟩)
    · rfl
  · rfl

theorem splitScheme_cases (t : Text) : (Schemeless t ∧ splitScheme t = ([], t)) ∨
    ∃ s rest, IsScheme s ∧ t = s ++ CodePoint.ofChar ':' :: rest ∧
      splitScheme t = (s.map CodePoint.toLower, rest) := by
  by_cases schemeless : Schemeless t
  · exact .inl ⟨schemeless, splitScheme_of_schemeless schemeless⟩
  · simp only [Schemeless, not_forall, not_not] at schemeless
    obtain ⟨s, rest, valid, rfl⟩ := schemeless
    exact .inr ⟨s, rest, valid, rfl, splitScheme_of_isScheme valid rest⟩

theorem schemeless_of_head (start : ∀ c ∈ t.head?, c.isLetter = false) : Schemeless t := by
  rintro s rest valid rfl
  obtain ⟨c, more, rfl, letter⟩ := valid.start
  simp [start c rfl] at letter

theorem Schemeless.of_append (schemeless : Schemeless (front ++ tail)) : Schemeless front := by
  rintro s rest valid rfl
  exact schemeless s (rest ++ tail) valid (by simp)

/-- A tail gives no scheme to a text. -/
theorem Schemeless.append (schemeless : Schemeless front) (behind : IsTail tail) :
    Schemeless (front ++ tail) := by
  intro s rest valid whole
  -- the colon stands in the text itself or in the tail, which then starts within the scheme
  rcases List.append_eq_append_iff.mp whole with ⟨more, rfl, inTail⟩ | ⟨more, rfl, inText⟩
  · cases more with
    | nil => exact (behind.head (by simp [inTail])).2.1 rfl
    | cons c later =>
        have schemeChar := valid.chars c (by simp)
        simp [(behind.head (c := c) (by simp [inTail])).1] at schemeChar
  · cases more with
    | nil =>
        have same : tail = CodePoint.ofChar ':' :: rest := inText.symm
        exact (behind.head (by simp [same])).2.1 rfl
    | cons c later =>
        obtain ⟨rfl, _⟩ := List.cons.inj inText
        exact schemeless s later valid rfl

end Scheme

section Authority

variable {t rest tail : Text}

def slashes : Text := "//"

theorem afterSlashes?_slashes (t : Text) : afterSlashes? (slashes ++ t) = some t := rfl

theorem eq_of_afterSlashes? (found : afterSlashes? t = some rest) : t = slashes ++ rest := by
  unfold afterSlashes? at found
  split at found
  · split at found
    · rename_i both
      obtain ⟨rfl, rfl⟩ := both
      obtain rfl := Option.some.inj found
      rfl
    · simp at found
  · simp at found

theorem afterSlashes?_eq_none_iff : afterSlashes? t = none ↔ ¬slashes <+: t := by
  constructor
  · rintro none ⟨rest, rfl⟩
    simp [afterSlashes?_slashes] at none
  · intro other
    cases found : afterSlashes? t with
    | none => rfl
    | some rest => exact absurd ⟨rest, (eq_of_afterSlashes? found).symm⟩ other

theorem splitAuthority_slashes (t : Text) : splitAuthority (slashes ++ t) =
    (t.takeWhile fun c => !endsAuthority c, t.dropWhile fun c => !endsAuthority c) := by
  rw [splitAuthority, afterSlashes?_slashes]

theorem splitAuthority_of_no_slashes (other : ¬slashes <+: t) : splitAuthority t = ([], t) := by
  rw [splitAuthority, afterSlashes?_eq_none_iff.mpr other]

theorem afterSlashes?_append (behind : IsTail tail) :
    afterSlashes? (t ++ tail) = (afterSlashes? t).map (· ++ tail) := by
  match t, tail with
  | [], [] => rfl
  | [], c :: rest =>
      have other := (behind.head rfl).2.2.2.1
      cases rest <;> simp [afterSlashes?, other]
  | [_], [] => rfl
  | [_], c :: rest =>
      have other := (behind.head rfl).2.2.2.1
      simp [afterSlashes?, other]
  | a :: b :: rest, tail =>
      simp only [List.cons_append, afterSlashes?]
      split <;> rfl

theorem splitAuthority_append (behind : IsTail tail) :
    splitAuthority (t ++ tail) = ((splitAuthority t).1, (splitAuthority t).2 ++ tail) := by
  have stops : ∀ c ∈ tail.head?, (!endsAuthority c) = false := by
    intro c first
    simp [(behind.head first).2.2.1]
  rw [splitAuthority, splitAuthority, afterSlashes?_append behind]
  cases afterSlashes? t with
  | none => rfl
  | some rest =>
      rw [Option.map_some]
      simp only [takeWhile_append_of_head stops, dropWhile_append_of_head stops]

end Authority

section Parts

variable {t path query fragment : Text} {u : Uri}

theorem cut_marked {mark : CodePoint} {front : Text} (clear : mark ∉ front) (part : Text) :
    (Text.cut mark (front ++ marked mark part)).1 = front ∧
      (Text.cut mark (front ++ marked mark part)).2.getD [] = part := by
  by_cases empty : part = []
  · simp [marked, empty, Text.cut_of_not_mem clear]
  · rw [marked_of_ne_nil mark empty, Text.cut_append clear]
    exact ⟨rfl, rfl⟩

theorem parts_eq {after scheme authority : Text} (cleaned : clean t = t)
    (first : splitScheme t = (scheme, after))
    (second : splitAuthority after =
      (authority, path ++ (marked '?' query ++ marked '#' fragment)))
    (pathClear : CodePoint.ofChar '?' ∉ path ∧ CodePoint.ofChar '#' ∉ path)
    (queryClear : CodePoint.ofChar '#' ∉ query) :
    parts t = ⟨scheme, authority, path, query, fragment⟩ := by
  have noFragment : CodePoint.ofChar '#' ∉ path ++ marked '?' query := by
    by_cases empty : query = []
    · simpa [marked, empty] using pathClear.2
    · have apart : CodePoint.ofChar '#' ≠ CodePoint.ofChar '?' := by decide
      simp [marked_of_ne_nil _ empty, pathClear.2, queryClear, apart]
  obtain ⟨beforeFragment, inFragment⟩ := cut_marked noFragment fragment
  obtain ⟨beforeQuery, inQuery⟩ := cut_marked pathClear.1 query
  rw [← List.append_assoc] at second
  simp only [parts, cleaned, first, second, beforeFragment, inFragment, beforeQuery, inQuery]

theorem exists_path_tail (t : Text) :
    ∃ tail, IsTail tail ∧
      (splitAuthority (splitScheme (clean t)).2).2 = (parts t).path ++ tail := by
  obtain ⟨fragment, outer, whole⟩ :=
    exists_cut_tail (.inr rfl) (splitAuthority (splitScheme (clean t)).2).2
  obtain ⟨query, inner, before⟩ :=
    exists_cut_tail (.inl rfl) ((splitAuthority (splitScheme (clean t)).2).2.cut '#').1
  refine ⟨query ++ fragment, inner.append outer, ?_⟩
  rw [← List.append_assoc]
  exact whole.trans (congrArg (· ++ fragment) before)

/-- The parts that splitting gives. Beyond the marks they are free of, they have none of what is
dropped, the scheme is in small letters, and a path that has no authority before it says nothing
else than that it is one. -/
structure Splittable (u : Uri) : Prop extends Delimited u where
  visible : ∀ part ∈ [u.scheme, u.authority, u.path, u.query, u.fragment],
    ∀ c ∈ part, isIgnored c = false
  lowered : u.scheme ≠ [] → IsScheme u.scheme ∧ u.scheme.map CodePoint.toLower = u.scheme
  rooted : u.authority ≠ [] → rootedPath u.path = u.path
  bare : u.scheme = [] → u.authority = [] →
    Schemeless u.path ∧ ∀ c ∈ u.path.head?, 0x20 < c.value

theorem rootedPath_eq_self_iff :
    rootedPath path = path ↔ path = [] ∨ path.head? = some (CodePoint.ofChar '/') := by
  cases path with
  | nil => simp [rootedPath]
  | cons c rest =>
      by_cases slash : c = CodePoint.ofChar '/'
      · simp [rootedPath, slash]
      · have longer : CodePoint.ofChar '/' :: c :: rest ≠ c :: rest := by simp
        simp [rootedPath, slash, longer]

theorem isIgnored_eq_false {p : CodePoint → Prop} {c : CodePoint} (holds : p c) (noTab : ¬p '\t')
    (noFeed : ¬p '\n') (noReturn : ¬p '\r') : isIgnored c = false := by
  cases ignored : isIgnored c with
  | false => rfl
  | true =>
      simp only [isIgnored, Bool.or_eq_true, decide_eq_true_eq] at ignored
      obtain (rfl | rfl) | rfl := ignored
      · exact absurd holds noTab
      · exact absurd holds noFeed
      · exact absurd holds noReturn

theorem visible_clean (t : Text) : ∀ c ∈ clean t, isIgnored c = false := by
  intro c member
  simpa using (List.mem_filter.mp member).2

theorem head_clean (t : Text) : ∀ c ∈ (clean t).head?, 0x20 < c.value := by
  intro c first
  have start := List.head?_dropWhile_not (fun c : CodePoint => decide (c.value ≤ 0x20)) t
  unfold clean at first
  cases rest : t.dropWhile fun c => decide (c.value ≤ 0x20) with
  | nil => simp [rest] at first
  | cons d more =>
      have above : 0x20 < d.value := by simpa [rest] using start
      have kept : isIgnored d = false :=
        isIgnored_eq_false (p := fun c => 0x20 < c.value) above (by decide) (by decide) (by decide)
      have same : d = c := by simpa [rest, kept] using first
      exact same ▸ above

theorem clean_of_visible (visible : ∀ c ∈ t, isIgnored c = false)
    (start : ∀ c ∈ t.head?, 0x20 < c.value) : clean t = t := by
  have kept : t.dropWhile (fun c => decide (c.value ≤ 0x20)) = t := by
    cases t with
    | nil => rfl
    | cons c rest => simpa using start c rfl
  rw [clean, kept, List.filter_eq_self]
  intro c member
  simp [visible c member]

theorem mem_of_mem_authority {c : CodePoint} (member : c ∈ (splitAuthority t).1) : c ∈ t := by
  unfold splitAuthority at member
  split at member
  · rename_i rest found
    exact mem_of_mem_afterSlashes found ((List.takeWhile_sublist _).mem member)
  · simp at member

theorem rootedPath_of_slashes (begins : slashes <+: (splitScheme (clean t)).2) :
    rootedPath (parts t).path = (parts t).path := by
  obtain ⟨rest, whole⟩ := begins
  obtain ⟨tail, _, behind⟩ := exists_path_tail t
  rw [← whole, splitAuthority_slashes] at behind
  rw [rootedPath_eq_self_iff]
  cases path : (parts t).path with
  | nil => exact .inl rfl
  | cons c more =>
      -- nothing but a mark ends the authority, and the other two do not stand in a path
      have first : (rest.dropWhile fun c => !endsAuthority c).head? = some c := by
        rw [show (rest.dropWhile fun c => !endsAuthority c) = c :: more ++ tail from path ▸ behind]
        rfl
      have ends : endsAuthority c = true := by
        simpa [first] using List.head?_dropWhile_not (fun c => !endsAuthority c) rest
      obtain ⟨noQuery, noFragment⟩ := (delimited_parts t).path
      simp only [path, List.mem_cons, not_or] at noQuery noFragment
      simp only [endsAuthority, Bool.or_eq_true, decide_eq_true_eq] at ends
      obtain (slash | rfl) | rfl := ends
      · exact .inr (by simp [slash])
      · exact absurd rfl noQuery.1
      · exact absurd rfl noFragment.1

theorem splittable_parts (t : Text) : (parts t).Splittable where
  toDelimited := delimited_parts t
  visible := by
    have after : ∀ c ∈ (splitScheme (clean t)).2, isIgnored c = false :=
      fun c member => visible_clean t c (mem_of_mem_splitScheme member)
    have behind : ∀ c ∈ (splitAuthority (splitScheme (clean t)).2).2, isIgnored c = false :=
      fun c member => after c (mem_of_mem_splitAuthority member)
    have before : ∀ c ∈ ((splitAuthority (splitScheme (clean t)).2).2.cut '#').1,
        isIgnored c = false := fun c member => behind c (Text.mem_of_mem_cut member)
    simp only [List.forall_mem_cons, List.not_mem_nil, false_implies, implies_true, and_true]
    refine ⟨fun c member =>
        isIgnored_eq_false (p := (isSchemeChar · = true)) (isSchemeChar_of_mem_splitScheme member)
          (by decide) (by decide) (by decide),
      fun c member => after c (mem_of_mem_authority member),
      fun c member => before c (Text.mem_of_mem_cut member),
      fun c member => before c (Text.mem_of_mem_after_cut member),
      fun c member => behind c (Text.mem_of_mem_after_cut member)⟩
  lowered := by
    intro named
    obtain ⟨_, split⟩ | ⟨s, rest, valid, _, split⟩ := splitScheme_cases (clean t)
    · exact absurd (congrArg Prod.fst split) named
    · have scheme : (parts t).scheme = s.map CodePoint.toLower := congrArg Prod.fst split
      rw [scheme, List.map_map]
      refine ⟨valid.map_toLower, List.map_congr_left fun c _ => CodePoint.toLower_toLower c⟩
  rooted := by
    intro shown
    by_cases begins : slashes <+: (splitScheme (clean t)).2
    · exact rootedPath_of_slashes begins
    · exact absurd (congrArg Prod.fst (splitAuthority_of_no_slashes begins)) shown
  bare := by
    intro unnamed _
    have rest : Schemeless (clean t) ∧ (splitScheme (clean t)).2 = clean t := by
      obtain ⟨schemeless, split⟩ | ⟨s, rest, valid, _, split⟩ := splitScheme_cases (clean t)
      · exact ⟨schemeless, congrArg Prod.snd split⟩
      · obtain ⟨c, more, rfl, _⟩ := valid.start
        have named : (parts t).scheme = (c :: more).map CodePoint.toLower := congrArg Prod.fst split
        simp [unnamed] at named
    by_cases begins : slashes <+: (splitScheme (clean t)).2
    · obtain none | slash := rootedPath_eq_self_iff.mp (rootedPath_of_slashes begins)
      · rw [none]
        exact ⟨schemeless_of_head (by simp), by simp⟩
      · rw [slash]
        refine ⟨schemeless_of_head fun c first => ?_, fun c first => ?_⟩
        · obtain rfl := Option.some.inj (slash.symm.trans first)
          decide
        · obtain rfl := Option.some.inj first
          decide
    · obtain ⟨tail, _, behind⟩ := exists_path_tail t
      rw [splitAuthority_of_no_slashes begins, rest.2] at behind
      have whole : Schemeless ((parts t).path ++ tail) := behind ▸ rest.1
      refine ⟨whole.of_append, fun c first => ?_⟩
      refine head_clean t c ?_
      rw [show clean t = (parts t).path ++ tail from behind, List.head?_append]
      simp [Option.mem_def.mp first]

end Parts

section Written

variable {u : Uri} {query : Text}

def tailText (u : Uri) : Text := marked '?' u.query ++ marked '#' u.fragment

/-- Another query leaves the parts such that they can be told apart. -/
theorem Splittable.withQuery (splittable : u.Splittable)
    (visible : ∀ c ∈ query, isIgnored c = false) (clear : CodePoint.ofChar '#' ∉ query) :
    Splittable { u with query := query } where
  scheme := splittable.scheme
  authority := splittable.authority
  path := splittable.path
  query := clear
  visible := by
    have others := splittable.visible
    simp only [List.forall_mem_cons] at others ⊢
    obtain ⟨scheme, authority, path, _, fragment⟩ := others
    exact ⟨scheme, authority, path, visible, fragment⟩
  lowered := splittable.lowered
  rooted := splittable.rooted
  bare := splittable.bare

theorem showsAuthority_iff : u.showsAuthority = true ↔
    u.authority ≠ [] ∨ u.scheme ∈ authoritySchemes ∧ ¬slashes <+: u.path := by
  simp [showsAuthority, afterSlashes?_eq_none_iff]

theorem render_eq (u : Uri) : u.render = u.schemeText ++ (u.hierText ++ u.tailText) := by
  simp only [render, tailText, List.append_assoc]

theorem hierText_of_shown (shown : u.showsAuthority = true) :
    u.hierText = slashes ++ (u.authority ++ rootedPath u.path) := by
  rw [hierText, if_pos shown, List.append_assoc, slashes]

theorem hierText_of_hidden (hidden : u.showsAuthority = false) : u.hierText = u.path := by
  rw [hierText, if_neg (by simp [hidden])]

theorem isTail_tailText (u : Uri) : IsTail u.tailText :=
  (isTail_marked (.inl rfl) _).append (isTail_marked (.inr rfl) _)

theorem authority_eq_nil_of_hidden (hidden : u.showsAuthority = false) : u.authority = [] := by
  by_contra nonempty
  exact Bool.false_ne_true (hidden.symm.trans (showsAuthority_iff.mpr (.inl nonempty)))

theorem Splittable.schemeless (splittable : u.Splittable) (unnamed : u.scheme = []) :
    Schemeless (u.hierText ++ u.tailText) := by
  cases shown : u.showsAuthority with
  | true =>
      rw [hierText_of_shown shown]
      refine schemeless_of_head fun c first => ?_
      obtain rfl : CodePoint.ofChar '/' = c := Option.some.inj first
      decide
  | false =>
      rw [hierText_of_hidden shown]
      have path := splittable.bare unnamed (authority_eq_nil_of_hidden shown)
      exact path.1.append (isTail_tailText u)

theorem Splittable.splitScheme_render (splittable : u.Splittable) :
    splitScheme u.render = (u.scheme, u.hierText ++ u.tailText) := by
  rw [render_eq]
  by_cases unnamed : u.scheme = []
  · have nothing : u.schemeText = [] := by simp [schemeText, unnamed]
    rw [nothing, List.nil_append, splitScheme_of_schemeless (splittable.schemeless unnamed),
      unnamed]
  · obtain ⟨valid, lowered⟩ := splittable.lowered unnamed
    have named : u.schemeText = u.scheme ++ [CodePoint.ofChar ':'] := by
      simp only [schemeText, List.isEmpty_iff, unnamed, if_false]
      rfl
    rw [named, List.append_assoc, List.singleton_append, splitScheme_of_isScheme valid, lowered]

theorem visible_marked {mark : CodePoint} {part : Text} (plain : isIgnored mark = false)
    (visible : ∀ c ∈ part, isIgnored c = false) : ∀ c ∈ marked mark part, isIgnored c = false := by
  unfold marked
  split
  · simp
  · exact List.forall_mem_cons.mpr ⟨plain, visible⟩

theorem Splittable.visible_render (splittable : u.Splittable) :
    ∀ c ∈ u.render, isIgnored c = false := by
  have parts := splittable.visible
  simp only [List.forall_mem_cons, List.not_mem_nil, false_implies, implies_true, and_true] at parts
  obtain ⟨scheme, authority, path, query, fragment⟩ := parts
  have inScheme : ∀ c ∈ u.schemeText, isIgnored c = false := by
    unfold schemeText
    split
    · simp
    · exact List.forall_mem_append.mpr ⟨scheme, by decide⟩
  have inHier : ∀ c ∈ u.hierText, isIgnored c = false := by
    cases shown : u.showsAuthority with
    | true =>
        rw [hierText_of_shown shown, List.forall_mem_append, List.forall_mem_append]
        refine ⟨by decide, authority, fun c member => ?_⟩
        obtain rfl | member := mem_rootedPath member
        · decide
        · exact path c member
    | false =>
        rw [hierText_of_hidden shown]
        exact path
  rw [render_eq, tailText, List.forall_mem_append, List.forall_mem_append, List.forall_mem_append]
  exact ⟨inScheme, inHier, visible_marked (by decide) query, visible_marked (by decide) fragment⟩

theorem lt_value_of_isLetter {c : CodePoint} (letter : c.isLetter = true) : 0x20 < c.value := by
  have ends : 'A'.toNat = 65 ∧ 'a'.toNat = 97 := ⟨rfl, rfl⟩
  simp only [CodePoint.isLetter, CodePoint.between, Bool.or_eq_true, Bool.and_eq_true,
    decide_eq_true_eq] at letter
  omega

theorem Splittable.head_render (splittable : u.Splittable) :
    ∀ c ∈ u.render.head?, 0x20 < c.value := by
  rw [render_eq]
  intro c first
  by_cases unnamed : u.scheme = []
  · have nothing : u.schemeText = [] := by simp [schemeText, unnamed]
    rw [nothing, List.nil_append] at first
    cases shown : u.showsAuthority with
    | true =>
        rw [hierText_of_shown shown] at first
        obtain rfl : CodePoint.ofChar '/' = c := Option.some.inj first
        decide
    | false =>
        rw [hierText_of_hidden shown] at first
        cases path : u.path with
        | nil =>
            rw [path, List.nil_append] at first
            exact ((isTail_tailText u).head first).2.2.2.2
        | cons d more =>
            rw [path] at first
            obtain rfl : d = c := Option.some.inj first
            exact (splittable.bare unnamed (authority_eq_nil_of_hidden shown)).2 d (by simp [path])
  · obtain ⟨d, more, start, letter⟩ := (splittable.lowered unnamed).1.start
    have named : u.schemeText = d :: (more ++ [CodePoint.ofChar ':']) := by
      simp only [schemeText, start]
      rfl
    rw [named] at first
    obtain rfl : d = c := Option.some.inj first
    exact lt_value_of_isLetter letter

theorem Splittable.clean_render (splittable : u.Splittable) : clean u.render = u.render :=
  clean_of_visible splittable.visible_render splittable.head_render

theorem head_rootedPath {path : Text} {c : CodePoint} (first : c ∈ (rootedPath path).head?) :
    c = CodePoint.ofChar '/' := by
  unfold rootedPath at first
  split at first
  · simp at first
  · split at first
    · rename_i slash
      exact (Option.some.inj first).symm.trans slash
    · exact (Option.some.inj first).symm

/-- An authority that is written is read again, and the path with the slash that it got. -/
theorem Splittable.parts_render_of_shown (splittable : u.Splittable)
    (shown : u.showsAuthority = true) :
    parts u.render = { u with path := rootedPath u.path } := by
  have stops : ∀ c ∈ (rootedPath u.path).head?, (!endsAuthority c) = false := by
    intro c first
    rw [head_rootedPath first]
    decide
  have whole : ∀ c ∈ u.authority, (!endsAuthority c) = true := by
    intro c member
    simp [splittable.authority c member]
  have second : splitAuthority (u.hierText ++ u.tailText) =
      (u.authority, rootedPath u.path ++ u.tailText) := by
    rw [hierText_of_shown shown, splitAuthority_append (isTail_tailText u), splitAuthority_slashes,
      takeWhile_append_of_head stops, dropWhile_append_of_head stops,
      List.takeWhile_eq_self_iff.mpr whole, List.dropWhile_eq_nil_iff.mpr whole, List.nil_append]
  have clear : ∀ c, c ≠ CodePoint.ofChar '/' → c ∉ u.path → c ∉ rootedPath u.path :=
    fun c other absent member => (mem_rootedPath member).elim other absent
  exact parts_eq splittable.clean_render splittable.splitScheme_render second
    ⟨clear _ (by decide) splittable.path.1, clear _ (by decide) splittable.path.2⟩
    splittable.query

/-- Where no authority is written, one is read from the start of the path. -/
theorem Splittable.parts_render_of_hidden (splittable : u.Splittable)
    (hidden : u.showsAuthority = false) : parts u.render =
      { u with authority := (splitAuthority u.path).1, path := (splitAuthority u.path).2 } := by
  have second : splitAuthority (u.hierText ++ u.tailText) =
      ((splitAuthority u.path).1, (splitAuthority u.path).2 ++ u.tailText) := by
    rw [hierText_of_hidden hidden, splitAuthority_append (isTail_tailText u)]
  exact parts_eq splittable.clean_render splittable.splitScheme_render second
    ⟨fun member => splittable.path.1 (mem_of_mem_splitAuthority member),
      fun member => splittable.path.2 (mem_of_mem_splitAuthority member)⟩ splittable.query

theorem splitAuthority_snd_ne {path : Text} (begins : slashes <+: path) :
    (splitAuthority path).2 ≠ path := by
  obtain ⟨rest, rfl⟩ := begins
  intro same
  have shorter := (List.dropWhile_sublist (fun c => !endsAuthority c) (l := rest)).length_le
  have length := congrArg List.length same
  have marks : slashes.length = 2 := rfl
  simp only [splitAuthority_slashes, List.length_append, marks] at length
  omega

/-- Which parts are the same once they were written: all of them, but that a path behind an
authority must be empty or start with a slash, and without one must not start with two. -/
theorem Splittable.parts_render_eq_self_iff (splittable : u.Splittable) : parts u.render = u ↔
    u.authority ≠ [] ∨ ¬slashes <+: u.path ∧
      (u.scheme ∉ authoritySchemes ∨ u.path = [] ∨ u.path.head? = some (CodePoint.ofChar '/')) := by
  cases shown : u.showsAuthority with
  | true =>
      have same : { u with path := rootedPath u.path } = u ↔ rootedPath u.path = u.path := by
        simp [Uri.ext_iff]
      rw [splittable.parts_render_of_shown shown, same]
      obtain nonempty | ⟨asks, single⟩ := showsAuthority_iff.mp shown
      · exact iff_of_true (splittable.rooted nonempty) (.inl nonempty)
      · by_cases nonempty : u.authority ≠ []
        · exact iff_of_true (splittable.rooted nonempty) (.inl nonempty)
        · simp [nonempty, asks, single, rootedPath_eq_self_iff]
  | false =>
      have empty := authority_eq_nil_of_hidden shown
      have silent : ¬slashes <+: u.path → u.scheme ∉ authoritySchemes := by
        intro single asks
        exact Bool.false_ne_true (shown.symm.trans (showsAuthority_iff.mpr (.inr ⟨asks, single⟩)))
      rw [splittable.parts_render_of_hidden shown]
      by_cases begins : slashes <+: u.path
      · have changed := splitAuthority_snd_ne begins
        simp [Uri.ext_iff, empty, begins, changed]
      · simp [Uri.ext_iff, empty, begins, silent begins, splitAuthority_of_no_slashes begins]

theorem Splittable.query_parts_render (splittable : u.Splittable) :
    (parts u.render).query = u.query := by
  cases shown : u.showsAuthority with
  | true => rw [splittable.parts_render_of_shown shown]
  | false => rw [splittable.parts_render_of_hidden shown]

/-- Only where there is no authority, and the path starts with two slashes, can one be read that
was not there. -/
theorem Splittable.authority_parts_render (splittable : u.Splittable)
    (apart : ¬(u.authority = [] ∧ slashes <+: u.path)) :
    (parts u.render).authority = u.authority := by
  cases shown : u.showsAuthority with
  | true => rw [splittable.parts_render_of_shown shown]
  | false =>
      have empty := authority_eq_nil_of_hidden shown
      have single : ¬slashes <+: u.path := fun begins => apart ⟨empty, begins⟩
      rw [splittable.parts_render_of_hidden shown, splitAuthority_of_no_slashes single, empty]

theorem Splittable.authority_parts_render_of_slashes {rest : Text} (splittable : u.Splittable)
    (empty : u.authority = []) (begins : u.path = slashes ++ rest) :
    (parts u.render).authority = rest.takeWhile fun c => !endsAuthority c := by
  have hidden : u.showsAuthority = false := by
    rw [← Bool.not_eq_true, showsAuthority_iff]
    simp [empty, begins]
  rw [splittable.parts_render_of_hidden hidden, begins, splitAuthority_slashes]

end Written

end Uri

end ProofKey
