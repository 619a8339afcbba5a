import ProofKey.Text.Blank
import ProofKey.Text.Pieces

/-!
# Environment files

An environment file is a list of bindings `NAME=value`, one after the other. `export` may stand
before a name, `#` starts a comment. A value in single or double quotes may span lines and has
escapes; any other value ends with its line or with a `#` after a blank. A name without `=` is a
binding without a value. What is no binding is skipped up to the end of its line.
-/

namespace ProofKey

/-- A name with the value that the file gives it, if it gives one. -/
structure EnvBinding where
  name : Text
  value : Option Text
  deriving DecidableEq, Repr

namespace EnvFile

/-- The end of a line, for which every line end of a file counts. -/
def lineEnd : CodePoint := '\n'

/-- Makes one line feed of each pair of carriage return and line feed and of each carriage return
that stands alone. -/
def normalize : Text → Text
  | [] => []
  | c :: rest =>
      if c = CodePoint.ofChar '\r' then
        match rest with
        | d :: more =>
            if d = lineEnd then lineEnd :: normalize more else lineEnd :: normalize (d :: more)
        | [] => [lineEnd]
      else c :: normalize rest

/-- A blank that is no line end. -/
def isInlineBlank (c : CodePoint) : Bool := Text.isBlank c && c != lineEnd

def skipInline (t : Text) : Text := t.dropWhile isInlineBlank

def skipLine (t : Text) : Text := (t.dropWhile fun c => c != lineEnd).drop 1

/-- Skips `export` and the blanks after it; without a blank it is the start of a name. -/
def skipExport (t : Text) : Text :=
  match Text.afterWord? "export" t with
  | some (c :: rest) => if isInlineBlank c then skipInline rest else t
  | _ => t

/-- What a quoted value holds, and the rest after its closing quote. A backslash makes the
character after it part of the value, whatever it is: the first quote that is not taken this way
closes the value. -/
def readQuoted (quote : CodePoint) : Text → Option (Text × Text)
  | [] => none
  | c :: rest =>
      if c = quote then some ([], rest)
      else if c = CodePoint.ofChar '\\' then
        match rest with
        | [] => none
        | d :: more => (readQuoted quote more).map fun (value, after) => (c :: d :: value, after)
      else (readQuoted quote rest).map fun (value, after) => (c :: value, after)

def singleEscape? (c : CodePoint) : Option CodePoint :=
  if c = CodePoint.ofChar '\\' ∨ c = CodePoint.ofChar '\'' then some c else none

def doubleEscape? (c : CodePoint) : Option CodePoint :=
  if c = CodePoint.ofChar '\\' ∨ c = CodePoint.ofChar '\'' ∨ c = CodePoint.ofChar '"' then some c
  else if c = CodePoint.ofChar 'a' then some '\x07'
  else if c = CodePoint.ofChar 'b' then some '\x08'
  else if c = CodePoint.ofChar 'f' then some '\x0c'
  else if c = CodePoint.ofChar 'n' then some '\n'
  else if c = CodePoint.ofChar 'r' then some '\r'
  else if c = CodePoint.ofChar 't' then some '\t'
  else if c = CodePoint.ofChar 'v' then some '\x0b'
  else none

/-- Replaces escapes; a backslash before any other character stands for itself. -/
def unescape (escape? : CodePoint → Option CodePoint) : Text → Text
  | [] => []
  | c :: rest =>
      if c = CodePoint.ofChar '\\' then
        match rest with
        | [] => [c]
        | d :: more =>
            match escape? d with
            | some e => e :: unescape escape? more
            | none => c :: unescape escape? (d :: more)
      else c :: unescape escape? rest

/-- A value without quotes, up to the blank before a `#`. -/
def dropComment : Text → Text
  | [] => []
  | c :: rest =>
      if Text.isBlank c && rest.head? == some (CodePoint.ofChar '#') then []
      else c :: dropComment rest

/-- The value after `=`, and the rest. Only a quote that is never closed makes it unreadable. -/
def readValue (t : Text) : Option (Text × Text) :=
  match skipInline t with
  | [] => some ([], [])
  | c :: rest =>
      if c = CodePoint.ofChar '\'' then
        (readQuoted c rest).map fun (value, after) => (unescape singleEscape? value, after)
      else if c = CodePoint.ofChar '"' then
        (readQuoted c rest).map fun (value, after) => (unescape doubleEscape? value, after)
      else if c = CodePoint.ofChar '#' ∧ (t.head?.any isInlineBlank) then some ([], c :: rest)
      else
        let line := (c :: rest).takeWhile fun d => d != lineEnd
        some (Text.stripEnd (dropComment line), (c :: rest).dropWhile fun d => d != lineEnd)

def isNameChar (c : CodePoint) : Bool :=
  c != CodePoint.ofChar '=' && c != CodePoint.ofChar '#' && !Text.isBlank c

/-- The name of a binding, and the rest; a comment has none. -/
def readName (t : Text) : Option (Option Text × Text) :=
  match t with
  | [] => none
  | c :: rest =>
      if c = CodePoint.ofChar '#' then some (none, t)
      else if c = CodePoint.ofChar '\'' then
        match Text.cut c rest with
        | ([], _) => none
        | (_, none) => none
        | (name, some after) => some (some name, after)
      else
        match t.takeWhile isNameChar with
        | [] => none
        | name => some (some name, t.dropWhile isNameChar)

/-- The rest after a comment, if there is one, and the end of the line. -/
def finishLine (t : Text) : Option Text :=
  let afterComment :=
    match skipInline t with
    | c :: rest =>
        if c = CodePoint.ofChar '#' then rest.dropWhile fun d => d != lineEnd else t
    | [] => t
  match skipInline afterComment with
  | [] => some []
  | c :: rest => if c = lineEnd then some rest else none

/-- The value of a name, and the rest after its line. What is left of an unreadable line is
skipped. -/
def readRest (name : Option Text) (t : Text) : Option EnvBinding × Text :=
  let finish (value : Option Text) (after : Text) : Option EnvBinding × Text :=
    match finishLine after with
    | some rest => (name.map fun n => ⟨n, value⟩, rest)
    | none => (none, skipLine after)
  match t with
  | [] => finish none t
  | c :: rest =>
      if c = CodePoint.ofChar '=' then
        match readValue rest with
        | some (value, after) => finish (some value) after
        | none => (none, skipLine (skipInline rest))
      else finish none t

/-- The first binding of a text, if its first line that is not blank has one, and the rest. -/
def readBinding (t : Text) : Option EnvBinding × Text :=
  match t.dropWhile Text.isBlank with
  | [] => (none, [])
  | c :: rest =>
      let start := skipExport (c :: rest)
      match readName start with
      | some (name, after) => readRest name (skipInline after)
      | none => (none, skipLine start)

/-- All bindings of a text. Each reading takes at least one character; the test for it lets the
recursion end. -/
def readAll (t : Text) : List EnvBinding :=
  let (binding, rest) := readBinding t
  if rest.length < t.length then binding.toList ++ readAll rest else binding.toList
termination_by t.length

/-- The bindings of a file, in their order; a byte order mark before them is dropped. -/
def bindings (file : Text) : List EnvBinding :=
  let t := normalize file
  match t with
  | c :: rest => readAll (if c.value = 0xFEFF then rest else t)
  | [] => []

end EnvFile

end ProofKey
