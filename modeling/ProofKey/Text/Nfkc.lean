import ProofKey.Text.Nfkc.CombiningClass
import ProofKey.Text.Nfkc.Composition
import ProofKey.Text.Nfkc.Decomposition

/-!
# Normal form of texts

Texts that look the same, or differ in the forms of their letters alone, have one normal form, which
Unicode calls NFKC. All is parted, the marks behind a letter come into the order of their classes,
and each letter is joined with those of its marks that nothing keeps from it.
-/

namespace ProofKey.Nfkc

/-- Puts a code point before a text whose marks are in order. A mark goes behind the marks of lower
classes, but not behind a letter. -/
def place (c : CodePoint) : Text → Text
  | [] => [c]
  | d :: rest =>
      if 0 < combiningClass d ∧ combiningClass d < combiningClass c then d :: place c rest
      else c :: d :: rest

/-- Brings marks into the order of their classes. Those of one class stay as they are. -/
def order (t : Text) : Text := t.foldr place []

/-- Joins what follows a letter with it. The marks between, the last one first, are those that could
not be joined: behind them come only marks of higher classes to the letter. -/
def composeFrom (letter : CodePoint) (between : Text) : Text → Text
  | [] => letter :: between.reverse
  | c :: rest =>
      let isNear := between.head?.all fun mark => combiningClass mark < combiningClass c
      match if isNear then pair? letter c else none with
      | some joined => composeFrom joined between rest
      | none =>
          if combiningClass c = 0 then letter :: between.reverse ++ composeFrom c [] rest
          else composeFrom letter (c :: between) rest

def compose : Text → Text
  | [] => []
  | c :: rest => composeFrom c [] rest

def normalize (t : Text) : Text := compose (order (t.flatMap decompose))

end ProofKey.Nfkc
