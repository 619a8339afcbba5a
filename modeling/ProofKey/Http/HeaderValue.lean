import ProofKey.Mapping
import ProofKey.Text.Pieces

/-!
# Header values with parameters

A header such as `Content-Type` has a value and, after semicolons, parameters `name=value`, whose
values may stand in double quotes (RFC 9110, section 5.6.6). The value and the names before an
equals sign do not care about capital letters. Spaces and tabs around a part mean nothing.
-/

namespace ProofKey.Http

/-- A value in small letters, with its parameters by name. -/
structure HeaderValue where
  value : Text
  parameters : Mapping Text

namespace HeaderValue

def isSpace (c : CodePoint) : Bool := c = CodePoint.ofChar ' ' || c = CodePoint.ofChar '\t'

def trim (t : Text) : Text := ((t.dropWhile isSpace).reverse.dropWhile isSpace).reverse

/-- Trimmed and in small letters. -/
def canonical (t : Text) : Text := (trim t).map CodePoint.toLower

def prepend (c : CodePoint) : List Text → List Text
  | [] => [[c]]
  | piece :: more => (c :: piece) :: more

/-- The pieces between semicolons. A semicolon behind an odd number of quotes of its piece does
not count, and neither does a quote right behind a backslash, whether it stands between quotes or
not. The first piece is no exception, though a value is never quoted. -/
def pieces (inQuotes escaped : Bool) : Text → List Text
  | [] => [[]]
  | c :: rest =>
      if c = CodePoint.ofChar ';' && !inQuotes then [] :: pieces false false rest
      else
        let turns := c = CodePoint.ofChar '"' && !escaped
        prepend c (pieces (inQuotes ^^ turns) (c = CodePoint.ofChar '\\') rest)

/-- Drops the backslash before each mark, from the left to the right. -/
def unescape (mark : CodePoint) : Text → Text
  | [] => []
  | [c] => [c]
  | c :: d :: rest =>
      if c = CodePoint.ofChar '\\' ∧ d = mark then d :: unescape mark rest
      else c :: unescape mark (d :: rest)

/-- What a parameter's value says: what stands between its quotes, or all of it if it does not
both start and end with one. Escaped backslashes are read before escaped quotes, so that a
backslash that was escaped may still escape a quote. -/
def unquote (t : Text) : Text :=
  match t with
  | first :: more =>
      if first = CodePoint.ofChar '"' ∧ more.getLast? = some (CodePoint.ofChar '"') then
        unescape '"' (unescape '\\' more.dropLast)
      else t
  | [] => []

/-- The parameter of a piece. A piece without `=` is a name without a value, and is kept as it is
written. -/
def parameter (piece : Text) : Text × Text :=
  match piece.cut '=' with
  | (name, some value) => (canonical name, unquote (trim value))
  | (name, none) => (trim name, [])

/-- Reads a header. Of parameters of one name the last counts. -/
def read (t : Text) : HeaderValue :=
  match pieces false false t with
  | [] => ⟨[], Mapping.empty⟩
  | value :: parameters => ⟨canonical value, Mapping.ofList (parameters.map parameter)⟩

end HeaderValue

end ProofKey.Http
