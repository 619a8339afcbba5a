import ProofKey.ErrorResponse

/-!
# Reading wire models

Models that come from outside as JSON objects are read field by field. All faults are reported,
in the order of the fields; fields that the model does not know are ignored.
-/

namespace ProofKey

/-- A JSON value as far as the models distinguish it. -/
inductive WireValue where
  | null
  | text (t : Text)
  | list (items : List WireValue)
  | other
  deriving Repr, Inhabited

inductive FieldFault where
  | missing
  | notText
  | notList
  | emptyList
  deriving DecidableEq, Repr

namespace FieldFault

def name : FieldFault → Text
  | missing => "missing"
  | notText => "string_type"
  | notList => "list_type"
  | emptyList => "too_short"

def message : FieldFault → Text
  | missing => "Field required"
  | notText => "Input should be a valid string"
  | notList => "Input should be a valid list"
  | emptyList => "List should have at least 1 item after validation, not 0"

end FieldFault

/-- A fault with the field it is in, and the index of the item if the field is a list. -/
structure FieldError where
  fault : FieldFault
  place : List Text
  deriving DecidableEq, Repr

namespace Wire

/-- The fields of an object; the last value of a name counts. -/
abbrev Fields := List (Text × WireValue)

def field? (fields : Fields) (name : Text) : Option WireValue :=
  (fields.reverse.find? fun entry => entry.1 = name).map (·.2)

def requiredText (fields : Fields) (name : Text) : Except (List FieldError) Text :=
  match field? fields name with
  | none => .error [⟨.missing, [name]⟩]
  | some (.text t) => .ok t
  | some _ => .error [⟨.notText, [name]⟩]

/-- The value of a text field that may be missing or null. -/
def optionalText (fields : Fields) (name : Text) : Except (List FieldError) (Option Text) :=
  match field? fields name with
  | none => .ok none
  | some .null => .ok none
  | some (.text t) => .ok (some t)
  | some _ => .error [⟨.notText, [name]⟩]

/-- The texts of a list, or the faults of its items with their indices. -/
def texts (place : Text) : Nat → List WireValue → Except (List FieldError) (List Text)
  | _, [] => .ok []
  | i, .text t :: rest => (texts place (i + 1) rest).map (t :: ·)
  | i, _ :: rest =>
      let here : FieldError := ⟨.notText, [place, Text.ofNat i]⟩
      match texts place (i + 1) rest with
      | .ok _ => .error [here]
      | .error more => .error (here :: more)

/-- The value of a field that must hold at least one text. -/
def someTexts (fields : Fields) (name : Text) : Except (List FieldError) (List Text) :=
  match field? fields name with
  | none => .error [⟨.missing, [name]⟩]
  | some (.list []) => .error [⟨.emptyList, [name]⟩]
  | some (.list items) => texts name 0 items
  | some _ => .error [⟨.notList, [name]⟩]

def faults {α : Type} : Except (List FieldError) α → List FieldError
  | .ok _ => []
  | .error errors => errors

end Wire

def ErrorResponse.ofFields (fields : Wire.Fields) : Except (List FieldError) ErrorResponse :=
  let error := Wire.requiredText fields errorName
  let description := Wire.optionalText fields descriptionName
  let uri := Wire.optionalText fields uriName
  match error, description, uri with
  | .ok error, .ok description, .ok uri => .ok ⟨error, description, uri⟩
  | _, _, _ => .error (Wire.faults error ++ Wire.faults description ++ Wire.faults uri)

end ProofKey
