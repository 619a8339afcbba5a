import ProofKey.ErrorResponse
import ProofKey.Json
import ProofKey.Text.Utf8

/-!
# Requests and responses

An HTTP request as far as the token endpoint and the framework before it look at it, and the
responses that the endpoint gives: JSON objects and plain texts. Headers stand in the order of their
names.
-/

namespace ProofKey.Http

/-- A request, with the content type of its header, if it has that header. -/
structure Request where
  method : Text
  host : Text
  path : Text
  query : Text
  contentType : Option Text
  body : List UInt8
  deriving DecidableEq, Repr

structure Response where
  status : Nat
  headers : List (Text × Text)
  body : Text
  deriving DecidableEq, Repr

/-- Answers must not be cached (RFC 6749, section 5.1); the first of the two headers that say so. -/
def noStore : Text × Text := ("cache-control", "no-store")

def noCache : Text × Text := ("pragma", "no-cache")

def contentLength (body : Text) : Text × Text :=
  ("content-length", Text.ofNat (Utf8.encode body).length)

/-- A JSON answer that is not to be cached. -/
def json (status : Nat) (body : Text) : Response :=
  ⟨status, [noStore, contentLength body, ("content-type", "application/json"), noCache], body⟩

/-- A JSON answer without a word on caching. -/
def jsonCacheable (status : Nat) (body : Text) : Response :=
  ⟨status, [contentLength body, ("content-type", "application/json")], body⟩

/-- A plain answer; `headers` are those whose names come first. -/
def plain (status : Nat) (headers : List (Text × Text)) (body : Text) : Response :=
  ⟨status, headers ++ [contentLength body, ("content-type", "text/plain; charset=utf-8")], body⟩

/-- The fields of an error response that have a value, as a body. -/
def errorBody (r : ErrorResponse) : Text :=
  Json.braces (r.parameters.map fun (name, value) => Json.member name (Json.string value))

end ProofKey.Http
