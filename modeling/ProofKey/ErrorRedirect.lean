import ProofKey.ErrorResponse
import ProofKey.Query
import ProofKey.Uri

/-!
# Error redirects

An error at the authorization step goes back to the client on its redirect URI (RFC 6749, section
4.1.2.1). The parameters that the URI has stay, in their order; those of the error follow, and
last the client's state, if it sent one.
-/

namespace ProofKey

inductive RedirectError where
  /-- The redirect URI of the client is none. -/
  | uri (error : UriError)
  /-- A name or a value in the query has surrogates, which no escapes stand for. -/
  | surrogates (run : Run)
  deriving DecidableEq, Repr

def RedirectError.message : RedirectError → Text
  | uri error => error.message
  | surrogates run => run.surrogatesMessage

namespace OAuthError

/-- The parameters that tell a client about an error. -/
def redirectParameters (e : OAuthError) (state : Option Text) : List (Text × Text) :=
  e.response.parameters ++ (state.map fun s => (Text.ofString "state", s)).toList

def redirectEntries (e : OAuthError) (query : Text) (state : Option Text) : List (Text × Text) :=
  Query.decode query ++ e.redirectParameters state

/-- The redirect URI of a client with an error on it. -/
def redirect (e : OAuthError) (redirectUri : Text) (state : Option Text) :
    Except RedirectError Text :=
  match Uri.parse redirectUri with
  | .error error => .error (.uri error)
  | .ok uri =>
      let entries := e.redirectEntries uri.query state
      match Query.surrogates? entries with
      | some run => .error (.surrogates run)
      | none => .ok { uri with query := Query.encode entries }.render

end OAuthError

end ProofKey
