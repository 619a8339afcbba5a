import ProofKey.Http.HeaderValue

/-!
# Multipart bodies

A multipart body is a sequence of parts between delimiters that a boundary makes (RFC 2046,
section 5.1). Each part has headers, of which `Content-Disposition` names it, and after an empty
line its content. A body is read from its start; where it ends too early, the parts that are
complete count, and the others do not. Boundaries and headers have a greatest length, and parts a
greatest number of headers. Bodies are texts here whose code points are bytes.
-/

namespace ProofKey.Http

/-- What the headers of a part say of it. A part with a file name is an upload. -/
structure Disposition where
  name : Text
  fileName : Option Text
  deriving DecidableEq, Repr

structure Part where
  disposition : Disposition
  content : Text
  deriving DecidableEq, Repr

inductive MultipartError where
  /-- The content type does not say which boundary there is. -/
  | missingBoundary
  /-- The body breaks the grammar or a limit. -/
  | malformed
  /-- A part has no name. -/
  | unnamedPart
  deriving DecidableEq, Repr

def MultipartError.message : MultipartError → Text
  | missingBoundary => "Missing boundary in multipart."
  | malformed => "Invalid multipart data."
  | unnamedPart => "The Content-Disposition header field \"name\" must be provided."

namespace Multipart

def boundaryLimit : Nat := 256

def headerLimit : Nat := 4224

def headerCountLimit : Nat := 8

inductive Stop where
  /-- No more parts will be complete. -/
  | ended
  /-- Something stands where it must not. -/
  | malformed
  deriving DecidableEq, Repr

/-- The error that a stop means: the end of a body is none. -/
def Stop.error? : Stop → Option MultipartError
  | ended => none
  | malformed => some .malformed

/-- What is read of a body: the complete parts, what the headers of a part say whose content is
not complete, and the error at which reading stopped. -/
structure Reading where
  parts : List Part := []
  unfinished : Option Disposition := none
  error : Option MultipartError := none
  deriving DecidableEq, Repr

/-- The rest after a word, which has to come now unless the body ends. -/
def expect : Text → Text → Except Stop Text
  | [], t => .ok t
  | _ :: _, [] => .error .ended
  | w :: word, c :: rest => if w = c then expect word rest else .error .malformed

/-- The carriage return and the line feed that end a line together. -/
def lineEnd : Text := "\r\n"

def isLineEnd (c : CodePoint) : Bool := c = CodePoint.ofChar '\r' || c = CodePoint.ofChar '\n'

/-- Two dashes stand before each boundary, and after the last one. -/
def dashes : Text := "--"

def isNameChar (c : CodePoint) : Bool :=
  c.isLetter || c.isDigit || (Text.ofString "!#$%&'*+-.^_`|~").contains c

def isValueChar (c : CodePoint) : Bool := c != CodePoint.ofChar '\r'

/-- The name and the value of a header, and the rest behind its line. -/
def readHeader (t : Text) : Except Stop ((Text × Text) × Text) :=
  if headerLimit < (t.takeWhile isValueChar).length then .error .malformed
  else
    let name := t.takeWhile isNameChar
    match t.dropWhile isNameChar with
    | [] => .error .ended
    | c :: rest =>
        if c = CodePoint.ofChar ':' && !name.isEmpty then
          let line := rest.dropWhile fun d => d = CodePoint.ofChar ' '
          (expect lineEnd (line.dropWhile isValueChar)).map fun after =>
            ((name, line.takeWhile isValueChar), after)
        else .error .malformed

/-- The headers of a part, as many as are allowed, and its content with all that follows. -/
def readHeaders (allowed : Nat) (t : Text) : Except Stop (List (Text × Text) × Text) :=
  match t.afterMark? '\r' with
  | some rest => (expect "\n" rest).map fun content => ([], content)
  | none =>
      match allowed with
      | 0 => .error (if t.isEmpty then .ended else .malformed)
      | left + 1 =>
          match readHeader t with
          | .error stop => .error stop
          | .ok (header, rest) =>
              (readHeaders left rest).map fun (headers, content) => (header :: headers, content)

theorem length_of_expect {word t rest : Text} (h : expect word t = .ok rest) :
    rest.length + word.length = t.length := by
  induction word generalizing t with
  | nil => simp_all [expect]
  | cons w word ih =>
      cases t with
      | nil => simp [expect] at h
      | cons c more =>
          simp only [expect] at h
          split at h
          · simp only [List.length_cons, ← ih h]
            omega
          · simp at h

theorem length_of_readHeader {t rest : Text} {header : Text × Text}
    (h : readHeader t = .ok (header, rest)) : rest.length < t.length := by
  unfold readHeader at h
  split at h
  · simp at h
  · simp only at h
    split at h
    · simp at h
    · rename_i c more named
      split at h
      · cases read : expect lineEnd
            ((more.dropWhile fun d => d = CodePoint.ofChar ' ').dropWhile isValueChar) with
        | error stop => simp [read, Except.map] at h
        | ok after =>
            simp only [read, Except.map, Except.ok.injEq, Prod.mk.injEq] at h
            have shorter := length_of_expect read
            have inLine := (List.dropWhile_sublist isValueChar
              (l := more.dropWhile fun d => d = CodePoint.ofChar ' ')).length_le
            have inRest := (List.dropWhile_sublist (fun d => d = CodePoint.ofChar ' ')
              (l := more)).length_le
            have inText := (List.dropWhile_sublist isNameChar (l := t)).length_le
            rw [named, List.length_cons] at inText
            rw [← h.2]
            omega
      · simp at h

theorem length_of_readHeaders {allowed : Nat} {t content : Text} {headers : List (Text × Text)}
    (h : readHeaders allowed t = .ok (headers, content)) : content.length < t.length := by
  induction allowed generalizing t headers with
  | zero =>
      unfold readHeaders at h
      split at h
      · rename_i rest start
        cases read : expect "\n" rest with
        | error stop => simp [read, Except.map] at h
        | ok after =>
            simp only [read, Except.map, Except.ok.injEq, Prod.mk.injEq] at h
            have := Text.length_of_afterMark start
            have := length_of_expect read
            rw [← h.2]
            omega
      · simp at h
  | succ left ih =>
      unfold readHeaders at h
      split at h
      · rename_i rest start
        cases read : expect "\n" rest with
        | error stop => simp [read, Except.map] at h
        | ok after =>
            simp only [read, Except.map, Except.ok.injEq, Prod.mk.injEq] at h
            have := Text.length_of_afterMark start
            have := length_of_expect read
            rw [← h.2]
            omega
      · simp only at h
        split at h
        · simp at h
        · rename_i header rest read
          cases more : readHeaders left rest with
          | error stop => simp [more, Except.map] at h
          | ok found =>
              obtain ⟨later, last⟩ := found
              simp only [more, Except.map, Except.ok.injEq, Prod.mk.injEq] at h
              have := length_of_readHeader read
              have := ih (h.2 ▸ more)
              omega

/-- The name of a file without the path before it. Only a path that starts at a drive or at a host
is one: a backslash in any other name belongs to it. -/
def fileName (path : Text) : Text :=
  let drive : Text := ":\\"
  let host : Text := "\\\\"
  if (path.drop 1).take 2 = drive ∨ path.take 2 = host then Text.afterLast '\\' path else path

/-- What the last disposition among some headers says, if it gives a name. -/
def disposition? (headers : List (Text × Text)) : Option Disposition :=
  let values := Mapping.ofList
    (headers.map fun (name, value) => (name.map CodePoint.toLower, value))
  let options := (HeaderValue.read ((values.get? "content-disposition").getD [])).parameters
  (options.get? "name").map fun name => ⟨name, (options.get? "filename").map fileName⟩

/-- What follows a delimiter: the next part, with all that comes after it, or nothing. Spaces
behind a delimiter have to lead to the end of its line; without them, other things show that there
was no delimiter. -/
def follow? (rest : Text) : Option (Except Stop (Option Text)) :=
  match Text.afterWord? lineEnd rest with
  | some next => some (.ok (some next))
  | none =>
      if (Text.afterWord? dashes rest).isSome then some (.ok none)
      else if (rest.head?.map HeaderValue.isSpace).getD false then
        some ((expect lineEnd (rest.dropWhile HeaderValue.isSpace)).map some)
      else none

/-- The content of a part, up to the first delimiter, and what follows it. What looks like a
delimiter and is none is content as a whole: no other delimiter begins before its end. -/
def readContent (delimiter : Text) (passed : Nat) : Text → Except Stop (Text × Option Text)
  | [] => .error .ended
  | c :: rest =>
      let go (passed : Nat) :=
        (readContent delimiter passed rest).map fun (content, next) => (c :: content, next)
      match passed with
      | left + 1 => go left
      | 0 =>
          match Text.afterWord? delimiter (c :: rest) with
          | none => go 0
          | some after =>
              match follow? after with
              | some follow => follow.map fun next => ([], next)
              | none => go (delimiter.length - 1)

theorem length_of_follow {after rest : Text} (h : follow? after = some (.ok (some rest))) :
    rest.length < after.length := by
  have two : lineEnd.length = 2 := rfl
  unfold follow? at h
  split at h
  · rename_i next ended
    simp only [Option.some.injEq, Except.ok.injEq] at h
    have := Text.length_of_afterWord ended
    rw [← h]
    omega
  · split at h
    · simp at h
    · split at h
      · simp only [Option.some.injEq] at h
        cases read : expect lineEnd (after.dropWhile HeaderValue.isSpace) with
        | error stop => simp [read, Except.map] at h
        | ok last =>
            simp only [read, Except.map, Except.ok.injEq, Option.some.injEq] at h
            have := length_of_expect read
            have inAfter := (List.dropWhile_sublist HeaderValue.isSpace (l := after)).length_le
            rw [← h]
            omega
      · simp at h

theorem length_of_readContent {delimiter t content rest : Text} {passed : Nat}
    (h : readContent delimiter passed t = .ok (content, some rest)) : rest.length < t.length := by
  induction t generalizing content passed with
  | nil => simp [readContent] at h
  | cons c more ih =>
      have later {left : Nat}
          (h : (readContent delimiter left more).map
            (fun (content, next) => (c :: content, next)) = .ok (content, some rest)) :
          rest.length < (c :: more).length := by
        cases inner : readContent delimiter left more with
        | error stop => simp [inner, Except.map] at h
        | ok found =>
            simp only [inner, Except.map, Except.ok.injEq, Prod.mk.injEq] at h
            obtain ⟨begun, next⟩ := found
            simp only at h
            exact Nat.lt_succ_of_lt (ih (h.2 ▸ inner))
      simp only [readContent] at h
      split at h
      · exact later h
      · split at h
        · exact later h
        · rename_i after found
          have := Text.length_of_afterWord found
          split at h
          · rename_i follow followed
            cases follow with
            | error stop => simp [Except.map] at h
            | ok next =>
                simp only [Except.map, Except.ok.injEq, Prod.mk.injEq] at h
                have := length_of_follow (h.2 ▸ followed)
                omega
          · exact later h

def readParts (delimiter t : Text) : Reading :=
  match _headers : readHeaders headerCountLimit t with
  | .error stop => { error := stop.error? }
  | .ok (headers, body) =>
      match disposition? headers with
      | none => { error := some .unnamedPart }
      | some disposition =>
          match _content : readContent delimiter 0 body with
          | .error stop => { unfinished := some disposition, error := stop.error? }
          | .ok (content, none) => { parts := [⟨disposition, content⟩] }
          | .ok (content, some rest) =>
              let more := readParts delimiter rest
              { more with parts := ⟨disposition, content⟩ :: more.parts }
termination_by t.length
decreasing_by
  have := length_of_readHeaders _headers
  have := length_of_readContent _content
  omega

/-- A body that starts with a line end has a preamble, which goes up to its first dash. -/
def skipPreamble (body : Text) : Text :=
  match body with
  | [] => []
  | c :: _ =>
      if isLineEnd c then body.dropWhile fun d => d != CodePoint.ofChar '-' else body

/-- The rest after the first delimiter. Two dashes behind it end a body without parts. -/
def readOpening (boundary t : Text) : Except Stop Text :=
  (expect (dashes ++ boundary) t).bind fun rest =>
    match rest.afterMark? '-' with
    | some more => (expect "-" more).bind fun _ => .error .ended
    | none => expect lineEnd rest

def read (boundary body : Text) : Reading :=
  if boundaryLimit < boundary.length then { error := some .malformed }
  else
    match readOpening boundary (skipPreamble body) with
    | .error stop => { error := stop.error? }
    | .ok rest => readParts (lineEnd ++ dashes ++ boundary) rest

end Multipart

end ProofKey.Http
