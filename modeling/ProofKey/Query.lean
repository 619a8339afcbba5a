import ProofKey.Percent
import ProofKey.Text.Run

/-!
# Query strings

A query is a list of names with values, in order and with repetitions: `name=value` pieces between
`&` marks. Written queries use percent-encoding throughout; when reading, `+` is a space, a piece
without `=` has an empty value, and an empty piece is no entry.
-/

namespace ProofKey.Query

def decodePart (t : Text) : Text :=
  Percent.decode (t.map fun c => if c = CodePoint.ofChar '+' then CodePoint.ofChar ' ' else c)

def decodePiece (piece : Text) : Text × Text :=
  let (name, value) := piece.cut '='
  (decodePart name, decodePart (value.getD []))

def decode (query : Text) : List (Text × Text) :=
  ((List.splitOn (CodePoint.ofChar '&') query).filter fun piece => !piece.isEmpty).map decodePiece

def encodePiece (entry : Text × Text) : Text :=
  Percent.encode entry.1 ++ "=" ++ Percent.encode entry.2

def encode (entries : List (Text × Text)) : Text :=
  List.intercalate (Text.ofString "&") (entries.map encodePiece)

/-- The first surrogates in the names and values of a query, for which there are no escapes. -/
def surrogates? (entries : List (Text × Text)) : Option Run :=
  entries.findSome? fun (name, value) => (Run.surrogates? name).or (Run.surrogates? value)

end ProofKey.Query
