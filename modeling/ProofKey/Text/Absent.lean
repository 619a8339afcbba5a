import ProofKey.Text

/-!
# What a text lacks

Some character sets take all of a range of Unicode that another set lacks, in the order of the code
points. `absent` lists these.
-/

namespace ProofKey.Text

/-- Marks, for the numbers of a range, which of them are those of a code point of the text. -/
def marks (first last : Nat) (t : Text) : Array Bool :=
  t.foldl
    (fun found c => if first ≤ c.value then found.setIfInBounds (c.value - first) true else found)
    (Array.replicate (last + 1 - first) false)

/-- The code points of a range that a text lacks, in their order. -/
def absent (first last : Nat) (t : Text) : Array CodePoint :=
  (marks first last t).zipIdx.filterMap fun (isThere, i) =>
    if isThere then none else some (.ofNat (first + i))

end ProofKey.Text
