import ProofKey.Http
import ProofKey.Http.Multipart
import ProofKey.Query
import ProofKey.Text.Charset

/-!
# Forms

A form is read from a URL-encoded or a multipart body; a body of any other content type has no
items. An item is a text or a file.
-/

namespace ProofKey

inductive FormError where
  /-- The body is not what its content type says. -/
  | multipart (error : Http.MultipartError)
  /-- The character set of the form has failed. -/
  | charset (fault : CharsetFault)
  deriving DecidableEq, Repr

namespace Form

inductive Item where
  | text (t : Text)
  | upload
  deriving DecidableEq, Repr

def Item.text? : Item → Option Text
  | text t => some t
  | upload => none

def urlencoded : Text := "application/x-www-form-urlencoded"

def multipart : Text := "multipart/form-data"

def urlencodedItems (body : List UInt8) : List (Text × Item) :=
  (Query.decode (Latin1.decode body)).map fun (name, value) => (name, .text value)

/-- Reads bytes, which stand in a text, in a character set. -/
def readBytes (charset : Option Charset.Entry) (t : Text) : Except FormError Text :=
  (Charset.read charset (Latin1.encode t)).mapError .charset

/-- The name of a part and whether it is an upload. The file name of an upload is read too. -/
def readDisposition (charset : Option Charset.Entry) (disposition : Http.Disposition) :
    Except FormError (Text × Bool) := do
  let name ← readBytes charset disposition.name
  match disposition.fileName with
  | none => return (name, false)
  | some fileName =>
      let _ ← readBytes charset fileName
      return (name, true)

/-- The item of a part. The content of an upload is left alone. -/
def partItem (charset : Option Charset.Entry) (part : Http.Part) :
    Except FormError (Text × Item) := do
  let (name, isUpload) ← readDisposition charset part.disposition
  if isUpload then return (name, .upload)
  else return (name, .text (← readBytes charset part.content))

/-- The items of a multipart body. The content type gives the boundary and may give the character
set, which is else UTF-8. A name that no set can have is complained of first, and then what comes
first in the body. -/
def multipartItems (parameters : Mapping Text) (body : List UInt8) :
    Except FormError (List (Text × Item)) := do
  let charset ← (Charset.named ((parameters.get? "charset").getD "utf-8")).mapError .charset
  match parameters.get? "boundary" with
  | none => throw (.multipart .missingBoundary)
  | some boundary =>
      let reading := Http.Multipart.read boundary (Latin1.decode body)
      let items ← reading.parts.mapM (partItem charset)
      let _ ← reading.unfinished.mapM (readDisposition charset)
      match reading.error with
      | none => return items
      | some error => throw (.multipart error)

def items (request : Http.Request) : Except FormError (List (Text × Item)) :=
  match request.contentType with
  | none => .ok []
  | some header =>
      let contentType := Http.HeaderValue.read header
      if contentType.value = urlencoded then .ok (urlencodedItems request.body)
      else if contentType.value = multipart then
        multipartItems contentType.parameters request.body
      else .ok []

end Form

end ProofKey
