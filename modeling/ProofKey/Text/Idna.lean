import ProofKey.Text.Nameprep
import ProofKey.Text.Punycode

/-!
# Internationalised domain names

A label of a domain name, which is a piece between two dots, is written in ASCII (RFC 3490). One
that starts with `xn--` stands for a text that has other characters, and goes on with this text in
Punycode. Such a label is read only if it is what that text would be written as.
-/

namespace ProofKey.Idna

inductive Fault where
  /-- What is behind the start of the label is no Punycode. -/
  | punycode (fault : Punycode.Fault)
  /-- The text is no name. -/
  | refused (fault : Nameprep.Fault)
  /-- The text looks like a label that stands for a text. -/
  | prefixed
  /-- A label would have no character, or too many. -/
  | size
  /-- The text is written as another label. -/
  | otherLabel (label other : Text)
  deriving DecidableEq, Repr

/-- What begins a label that stands for a text. -/
def acePrefix : Text := "xn--"

def labelLimit : Nat := 63

def sized (label : Text) : Except Fault Text :=
  if label.isEmpty ∨ labelLimit < label.length then .error .size else .ok label

/-- The label that a text is written as. A text in ASCII stands for itself. -/
def write (t : Text) : Except Fault Text :=
  if t.all CodePoint.isAscii then sized t
  else
    match Nameprep.prepare t with
    | .error fault => .error (.refused fault)
    | .ok name =>
        if name.all CodePoint.isAscii then sized name
        else if (Text.afterWord? acePrefix name).isSome then .error .prefixed
        else sized (acePrefix ++ Punycode.encode name)

def read (label : Text) : Except Fault Text :=
  match Text.afterWord? acePrefix label with
  | none => .ok label
  | some rest => do
      let t ← (Punycode.decode rest).mapError .punycode
      let other ← write t
      if other = label.map CodePoint.toLower then return t
      else throw (.otherLabel label other)

end ProofKey.Idna
