import Mathlib.Data.List.DropRight
import Mathlib.Data.List.Forall2
import ProofKey.Proofs.Pieces
import ProofKey.Settings

/-! # Lists with commas

What such a list names can be said without splitting or stripping anything: the
list is some pieces with commas between them, each piece is a name with blanks
around it, and a piece that is all blank names nothing. Reading finds just these
names, in their order.
-/

namespace ProofKey

namespace Text

section Stripping

variable {t padded : Text}

/-- No blank stands at either end. -/
structure Trimmed (t : Text) : Prop where
  start : ∀ c ∈ t.head?, isBlank c = false
  stop : ∀ c ∈ t.getLast?, isBlank c = false

/-- A text with blanks around it, or without any. -/
def Padded (t padded : Text) : Prop :=
  ∃ left right, padded = left ++ t ++ right ∧
    (∀ c ∈ left, isBlank c = true) ∧ ∀ c ∈ right, isBlank c = true

theorem dropWhile_of_start (start : ∀ c ∈ t.head?, isBlank c = false) :
    t.dropWhile isBlank = t := by
  cases t with
  | nil => rfl
  | cons c rest => simp [start c (by simp)]

theorem strip_eq_rdropWhile (t : Text) :
    strip t = (t.dropWhile isBlank).rdropWhile isBlank := rfl

theorem trimmed_strip (padded : Text) : (strip padded).Trimmed where
  start := by
    intro c first
    rw [strip_eq_rdropWhile] at first
    -- what is taken off at the end leaves the first code point as it is
    obtain ⟨taken, whole⟩ := List.rdropWhile_prefix isBlank (l := padded.dropWhile isBlank)
    have same : (padded.dropWhile isBlank).head? = some c := by
      rw [← whole, List.head?_append_of_ne_nil _ (List.ne_nil_of_mem (List.mem_of_mem_head? first))]
      exact first
    simpa [same] using List.head?_dropWhile_not isBlank padded
  stop := by
    intro c last
    rw [strip_eq_rdropWhile] at last
    obtain ⟨some, rfl⟩ := List.mem_getLast?_eq_getLast last
    simpa using List.rdropWhile_last_not isBlank (padded.dropWhile isBlank) some

theorem padded_strip (padded : Text) : (strip padded).Padded padded := by
  refine ⟨padded.takeWhile isBlank, (padded.dropWhile isBlank).rtakeWhile isBlank, ?_,
    fun c => List.mem_takeWhile_imp, fun c => List.mem_rtakeWhile_imp⟩
  calc padded = padded.takeWhile isBlank ++ padded.dropWhile isBlank :=
        List.takeWhile_append_dropWhile.symm
    _ = padded.takeWhile isBlank ++
          (strip padded ++ (padded.dropWhile isBlank).rtakeWhile isBlank) :=
        congrArg _ List.rdropWhile_append_rtakeWhile.symm
    _ = _ := (List.append_assoc _ _ _).symm

theorem strip_of_padded (trimmed : t.Trimmed) (around : t.Padded padded) : strip padded = t := by
  obtain ⟨left, right, rfl, leftBlank, rightBlank⟩ := around
  have reversed : ∀ c ∈ right.reverse, isBlank c = true := by simpa using rightBlank
  have ending : t.reverse.dropWhile isBlank = t.reverse :=
    dropWhile_of_start (by simpa using trimmed.stop)
  rw [strip, stripEnd, List.append_assoc, List.dropWhile_append_of_pos leftBlank]
  cases t with
  | nil =>
      have blank : right.dropWhile isBlank = [] := List.dropWhile_eq_nil_iff.mpr rightBlank
      simp [blank]
  | cons c rest =>
      have beginning : (c :: rest ++ right).dropWhile isBlank = c :: rest ++ right :=
        dropWhile_of_start trimmed.start
      rw [beginning, List.reverse_append, List.dropWhile_append_of_pos reversed, ending,
        List.reverse_reverse]

/-- Stripping takes off all blanks at the ends, and nothing else. -/
theorem strip_eq_iff : strip padded = t ↔ t.Trimmed ∧ t.Padded padded := by
  constructor
  · rintro rfl
    exact ⟨trimmed_strip padded, padded_strip padded⟩
  · rintro ⟨trimmed, around⟩
    exact strip_of_padded trimmed around

end Stripping

end Text

namespace Settings

def comma : CodePoint := ','

variable {value : Text} {names : List Text}

/-- A list names some texts: it is made of pieces with commas between them, each of them a text
with blanks around it, and the texts that are not empty are the names. -/
def Lists (value : Text) (names : List Text) : Prop :=
  ∃ texts pieces : List Text, value = List.intercalate [comma] pieces ∧
    (∀ piece ∈ pieces, comma ∉ piece) ∧
    List.Forall₂ (fun text piece => text.Trimmed ∧ text.Padded piece) texts pieces ∧
    names = texts.filter fun text => !text.isEmpty

theorem parseMethods_join {pieces : List Text} (clean : ∀ piece ∈ pieces, comma ∉ piece) :
    parseMethods (List.intercalate [comma] pieces) =
      (pieces.map Text.strip).filter fun text => !text.isEmpty := by
  cases pieces with
  | nil => rfl
  | cons piece more =>
      have split := List.splitOn_intercalate comma clean (List.cons_ne_nil piece more)
      rw [parseMethods, ← comma, split]

theorem parseMethods_eq_iff : parseMethods value = names ↔ Lists value names := by
  constructor
  · rintro rfl
    refine ⟨(List.splitOn comma value).map Text.strip, List.splitOn comma value,
      (List.intercalate_splitOn comma).symm, fun _ => Text.not_mem_of_mem_splitOn, ?_, rfl⟩
    rw [List.forall₂_map_left_iff, List.forall₂_same]
    exact fun piece _ => Text.strip_eq_iff.mp rfl
  · rintro ⟨texts, pieces, rfl, clean, padded, rfl⟩
    have stripped : texts = pieces.map Text.strip := by
      rw [← List.forall₂_eq_eq_eq, List.forall₂_map_right_iff]
      exact padded.imp fun text piece around => (Text.strip_eq_iff.mpr around).symm
    rw [parseMethods_join clean, stripped]

end Settings

end ProofKey
