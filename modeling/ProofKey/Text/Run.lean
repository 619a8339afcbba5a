import ProofKey.Text.Quoted

/-!
# Runs of code points

An encoding that lacks some code points cannot write a text in which they occur. The complaint is
about the first run of them: all of a text before it can be written, and what follows it is not
looked at.
-/

namespace ProofKey

/-- A run of code points in a text: where it starts, its first member, how many follow in it. -/
structure Run where
  position : Nat
  first : CodePoint
  more : Nat
  deriving DecidableEq, Repr

namespace Run

/-- The complaint about a run that an encoding lacks: a run of one is shown, of a longer one only
the place is told. -/
def message (encoding reason : Text) (run : Run) : Text :=
  let place :=
    if run.more = 0 then
      "character '" ++ Text.escapeByNumber run.first ++ "' in position " ++ Text.ofNat run.position
    else
      "characters in position " ++ Text.ofNat run.position ++ "-" ++
        Text.ofNat (run.position + run.more)
  "'" ++ encoding ++ "' codec can't encode " ++ place ++ ": " ++ reason

def firstWithout? (property : CodePoint → Bool) (t : Text) : Option Run :=
  match t.dropWhile property with
  | [] => none
  | c :: rest =>
      some ⟨(t.takeWhile property).length, c, (rest.takeWhile fun d => !property d).length⟩

/-- The first surrogates of a text, for which UTF-8 has no bytes. -/
def surrogates? (t : Text) : Option Run := firstWithout? (fun c => !c.isSurrogate) t

def surrogatesMessage (run : Run) : Text := run.message "utf-8" "surrogates not allowed"

theorem firstWithout?_eq_none_iff {property : CodePoint → Bool} {t : Text} :
    firstWithout? property t = none ↔ ∀ c ∈ t, property c := by
  unfold firstWithout?
  induction t with
  | nil => simp
  | cons c rest ih =>
      by_cases h : property c
      · simp only [List.dropWhile_cons, h, if_true]
        cases later : rest.dropWhile property with
        | nil => simp_all
        | cons d more => simp_all
      · simp [h]

end Run

end ProofKey
