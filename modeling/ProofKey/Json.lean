import ProofKey.Text.Quoted

/-!
# JSON

The bodies of answers are JSON, written without blanks. Of the characters of a text only the quote,
the backslash and control characters below U+0020 are escaped.
-/

namespace ProofKey

/-- A value that is to be written as JSON. -/
inductive Json where
  | null
  | boolean (b : Bool)
  /-- A number, in the form in which it is written. -/
  | number (written : Text)
  | text (t : Text)
  | list (items : List Json)
  | object (fields : List (Text × Json))
  /-- A value for which JSON has no form, with the complaint about it. -/
  | foreign (complaint : Text)
  deriving Repr, Inhabited

namespace Json

def escapeOne (c : CodePoint) : Text :=
  if c = CodePoint.ofChar '"' then "\\\""
  else if c = CodePoint.ofChar '\\' then "\\\\"
  else if c = CodePoint.ofChar '\n' then "\\n"
  else if c = CodePoint.ofChar '\r' then "\\r"
  else if c = CodePoint.ofChar '\t' then "\\t"
  else if c = CodePoint.ofChar '\x08' then "\\b"
  else if c = CodePoint.ofChar '\x0c' then "\\f"
  else if c.value < 0x20 then "\\u" ++ Text.hex 4 c.value
  else [c]

def string (t : Text) : Text := "\"" ++ t.flatMap escapeOne ++ "\""

def member (name written : Text) : Text := string name ++ ":" ++ written

/-- Written pieces with commas between them, in brackets of some kind. -/
def enclose (opening closing : Text) (pieces : List Text) : Text :=
  opening ++ List.intercalate (Text.ofString ",") pieces ++ closing

def braces (members : List Text) : Text := enclose "\x7b" "\x7d" members

mutual

/-- Writes a value. The first value within it that has no form is complained about. -/
def write : Json → Except Text Text
  | null => .ok "null"
  | boolean b => .ok (if b then "true" else "false")
  | number written => .ok written
  | text t => .ok (string t)
  | list items => (writeItems items).map (enclose "[" "]")
  | object fields => (writeFields fields).map braces
  | foreign complaint => .error complaint

def writeItems : List Json → Except Text (List Text)
  | [] => .ok []
  | item :: rest => do
      let first ← write item
      return first :: (← writeItems rest)

def writeFields : List (Text × Json) → Except Text (List Text)
  | [] => .ok []
  | (name, value) :: rest => do
      let written ← write value
      return member name written :: (← writeFields rest)

end

end Json

end ProofKey
