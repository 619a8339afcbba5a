import ProofKey.Text.Pieces
import ProofKey.Text.Sorted

/-!
# Routes

A route is a path in which names in braces stand for what a request may put there; behind the
name, a colon and a word say what kind of text that is. Braces around anything else stand for
themselves. A request path fits a route if it can be cut up to fit, and may then have a line feed
at its end.
-/

namespace ProofKey.Http

/-- What a parameter of a route stands for. -/
inductive ParameterKind where
  /-- One or more characters, none of them a slash. -/
  | segment
  /-- Any characters but line feeds. -/
  | path
  /-- Decimal digits. -/
  | integer
  /-- Decimal digits, and perhaps a dot and more of them. -/
  | decimal
  /-- A universally unique identifier, with or without its dashes. -/
  | uuid
  deriving DecidableEq, Repr

namespace ParameterKind

def ofName? (name : Text) : Option ParameterKind :=
  if name = Text.ofString "str" then some segment
  else if name = Text.ofString "path" then some path
  else if name = Text.ofString "int" then some integer
  else if name = Text.ofString "float" then some decimal
  else if name = Text.ofString "uuid" then some uuid
  else none

/-- What may be left of a text after no, one or more characters of a class, the shortest first. -/
def restsOfAny (allowed : CodePoint → Bool) : Text → List Text
  | [] => [[]]
  | c :: rest => (if allowed c then restsOfAny allowed rest else []) ++ [c :: rest]

/-- What may be left of a text after one or more characters of a class, the shortest first. -/
def restsOfSome (allowed : CodePoint → Bool) : Text → List Text
  | [] => []
  | c :: rest => if allowed c then restsOfAny allowed rest else []

/-- What may be left of a text after a dot and one or more digits. -/
def restsOfFraction (t : Text) : List Text :=
  match t.afterMark? '.' with
  | some rest => restsOfSome CodePoint.isDigit rest
  | none => []

/-- The rest after groups of hexadecimal digits of these lengths, with or without dashes between
them. -/
def afterHexGroups? : List Nat → Text → Option Text
  | [], t => some t
  | size :: sizes, t =>
      let group := t.take size
      if group.length == size && group.all CodePoint.isHexDigit then
        let rest := t.drop size
        afterHexGroups? sizes (if sizes.isEmpty then rest else (Text.afterMark? '-' rest).getD rest)
      else none

/-- What may be left of a text after a parameter of the kind. The longest parameter comes first,
but a number takes all the digits before its dot that it can, whether a fraction follows or not. -/
def rests : ParameterKind → Text → List Text
  | segment, t => restsOfSome (fun c => c != CodePoint.ofChar '/') t
  | path, t => restsOfAny (fun c => c != CodePoint.ofChar '\n') t
  | integer, t => restsOfSome CodePoint.isDigit t
  | decimal, t =>
      (restsOfSome CodePoint.isDigit t).flatMap fun rest => restsOfFraction rest ++ [rest]
  | uuid, t => (afterHexGroups? [8, 4, 4, 4, 12] t).toList

end ParameterKind

inductive RoutePiece where
  /-- A character that stands for itself. -/
  | literal (c : CodePoint)
  /-- A place that a request fills. -/
  | parameter (kind : ParameterKind)
  deriving DecidableEq, Repr

/-- A path with places to fill. -/
abbrev Route := List RoutePiece

inductive RouteError where
  /-- A path starts with a slash. -/
  | noSlash
  /-- No kind of parameter has this name. -/
  | unknownKind (name : Text)
  /-- Several parameters have the same name. -/
  | repeatedNames (names : List Text) (route : Text)
  deriving DecidableEq, Repr

def RouteError.message : RouteError → Text
  | noSlash => "Routed paths must start with '/'"
  | unknownKind name => "Unknown path convertor '" ++ name ++ "'"
  | repeatedNames names route =>
      "Duplicated param name" ++ (if 1 < names.length then Text.ofString "s" else []) ++ " " ++
        List.intercalate (Text.ofString ", ") names ++ " at path " ++ route

namespace Route

def ofPath (path : Text) : Route := path.map .literal

def isNameStart (c : CodePoint) : Bool := c.isLetter || c = CodePoint.ofChar '_'

def isNameChar (c : CodePoint) : Bool := isNameStart c || c.isDigit

def readName? : Text → Option (Text × Text)
  | [] => none
  | c :: rest =>
      if isNameStart c then some (c :: rest.takeWhile isNameChar, rest.dropWhile isNameChar)
      else none

/-- A parameter behind its opening brace: its name, the name of its kind, and the rest. -/
def readParameter? (t : Text) : Option (Text × Text × Text) :=
  (readName? t).bind fun (name, afterName) =>
    match afterName.afterMark? ':' with
    | some t =>
        (readName? t).bind fun (kind, afterKind) =>
          (afterKind.afterMark? '\x7d').map fun rest => (name, kind, rest)
    | none => (afterName.afterMark? '\x7d').map fun rest => (name, "str", rest)

theorem length_of_readName {t name rest : Text} (h : readName? t = some (name, rest)) :
    rest.length < t.length := by
  cases t with
  | nil => simp [readName?] at h
  | cons c more =>
      simp only [readName?] at h
      split at h
      · simp only [Option.some.injEq, Prod.mk.injEq] at h
        rw [← h.2]
        exact Nat.lt_succ_of_le (List.dropWhile_sublist isNameChar).length_le
      · simp at h

theorem length_of_readParameter {t name kind rest : Text}
    (h : readParameter? t = some (name, kind, rest)) : rest.length < t.length := by
  obtain ⟨⟨first, afterFirst⟩, named, h⟩ := Option.bind_eq_some_iff.mp h
  have := length_of_readName named
  simp only at h
  split at h
  · rename_i afterColon colon
    obtain ⟨⟨second, afterSecond⟩, kinded, h⟩ := Option.bind_eq_some_iff.mp h
    obtain ⟨last, closed, same⟩ := Option.map_eq_some_iff.mp h
    simp only [Prod.mk.injEq] at same closed
    have := Text.length_of_afterMark colon
    have := length_of_readName kinded
    have := Text.length_of_afterMark closed
    rw [← same.2.2]
    omega
  · obtain ⟨last, closed, same⟩ := Option.map_eq_some_iff.mp h
    simp only [Prod.mk.injEq] at same
    have := Text.length_of_afterMark closed
    rw [← same.2.2]
    omega

/-- A piece of a written route: a character, or the names of a parameter and its kind. -/
inductive Token where
  | literal (c : CodePoint)
  | parameter (name kind : Text)
  deriving DecidableEq, Repr

def Token.name? : Token → Option Text
  | literal _ => none
  | parameter name _ => some name

def Token.piece : Token → Except RouteError RoutePiece
  | literal c => .ok (.literal c)
  | parameter _ kind =>
      match ParameterKind.ofName? kind with
      | some k => .ok (.parameter k)
      | none => .error (.unknownKind kind)

/-- The tokens of a text. A brace that opens no parameter stands for itself. -/
def tokens (t : Text) : List Token :=
  match t with
  | [] => []
  | c :: rest =>
      if c = CodePoint.ofChar '\x7b' then
        match _found : readParameter? rest with
        | some (name, kind, after) => .parameter name kind :: tokens after
        | none => .literal c :: tokens rest
      else .literal c :: tokens rest
termination_by t.length
decreasing_by
  all_goals simp only [List.length_cons]
  · have := length_of_readParameter _found
    omega
  all_goals omega

/-- The names that occur more than once, in the order of their code points. -/
def repeated (names : List Text) : List Text :=
  Text.sorted (names.filter fun name => 1 < names.count name)

/-- Reads a route. An unknown kind is complained of before repeated names. -/
def ofText (t : Text) : Except RouteError Route :=
  if (t.afterMark? '/').isNone then .error .noSlash
  else
    ((tokens t).mapM Token.piece).bind fun route =>
      match repeated ((tokens t).filterMap Token.name?) with
      | [] => .ok route
      | names => .error (.repeatedNames names t)

/-- What a path puts into the places of a route, if it fits: of several ways, the one whose first
parameter comes first, then its second, and so on. -/
def fill? : Route → Text → Option (List (ParameterKind × Text))
  | [], t => if t.isEmpty || t == Text.ofString "\n" then some [] else none
  | .literal c :: more, t => (t.afterMark? c).bind (fill? more)
  | .parameter kind :: more, t =>
      (kind.rests t).findSome? fun rest =>
        (fill? more rest).map fun later => (kind, t.take (t.length - rest.length)) :: later

/-- The length of the first whole number among some parameters that has more digits than a limit.
A zero at the front is a digit like any other. -/
def excess? (limit : Nat) (parameters : List (ParameterKind × Text)) : Option Nat :=
  parameters.findSome? fun (kind, value) =>
    if kind = .integer ∧ limit < value.length then some value.length else none

end Route

end ProofKey.Http
