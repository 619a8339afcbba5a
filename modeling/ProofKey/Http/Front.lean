import ProofKey.Error
import ProofKey.Form
import ProofKey.Mapping
import ProofKey.Uri

/-!
# The framework before the endpoint

The endpoint sees a request through a framework: it asks for the query of the URL, for the
parameters of the query and for the form. What the framework answers is a parameter of the endpoint.
`Front.standard` is one framework. It puts the URL together from the host, the path and the query
and splits it again, and it has no bounds on the size of a form.
-/

namespace ProofKey.Http

/-- What a framework has read of a query or a form: the items as they came, and what it has for each
name. -/
structure Multi (α : Type) where
  items : List (Text × α)
  mapping : Mapping α

/-- The last item of a name counts. -/
def Multi.ofItems {α : Type} (items : List (Text × α)) : Multi α := ⟨items, Mapping.ofList items⟩

inductive FormFailure where
  /-- The client is told what is wrong with its form. -/
  | refused (message : Text)
  | fault (fault : Fault)

/-- A framework, by what it says of requests. -/
structure Front where
  /-- The query of a request's URL, which may be none that can be split. -/
  urlQuery : Request → Except Fault Text
  query : Request → Multi Text
  form : Request → Except FormFailure (Multi Form.Item)

/-- A path in a URL. The slashes stay, and all that could end the path is escaped. -/
def pathText (path : Text) : Text :=
  path.flatMap fun c => if c = CodePoint.ofChar '/' then [c] else Percent.encodeOne c

def Request.url (r : Request) : Text :=
  "http://" ++ r.host ++ pathText r.path ++ Uri.marked '?' r.query

def FormFailure.ofError : FormError → FormFailure
  | .multipart error => refused error.message
  | .charset error => fault (.charset error)

namespace Front

def standard : Front where
  urlQuery request :=
    ((Uri.parse request.url).mapError fun error => Fault.url error.message).map (·.query)
  query request := .ofItems (Query.decode request.query)
  form request := ((Form.items request).mapError .ofError).map .ofItems

end Front

end ProofKey.Http
