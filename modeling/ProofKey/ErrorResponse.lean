import ProofKey.Error

/-!
# Error responses

What a client is sent about an error (RFC 6749, section 5.2): the error code, and a description
and a URI that may be missing.
-/

namespace ProofKey

/-- The body of an error answer. -/
structure ErrorResponse where
  error : Text
  description : Option Text := none
  uri : Option Text := none
  deriving DecidableEq, Repr

def OAuthError.response (e : OAuthError) : ErrorResponse where
  error := e.kind.code
  description := some e.description

namespace ErrorResponse

def errorName : Text := "error"

def descriptionName : Text := "error_description"

def uriName : Text := "error_uri"

def fields (r : ErrorResponse) : List (Text × Option Text) :=
  [(errorName, some r.error), (descriptionName, r.description), (uriName, r.uri)]

/-- The fields that have a value, as parameters of a redirect. -/
def parameters (r : ErrorResponse) : List (Text × Text) :=
  r.fields.filterMap fun (name, value) => value.map (name, ·)

end ErrorResponse

end ProofKey
