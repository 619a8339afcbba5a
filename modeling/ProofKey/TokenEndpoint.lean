import ProofKey.CodeStore
import ProofKey.Http.Front
import ProofKey.Http.Route

/-!
# The token endpoint

The endpoint stands before a grant handler that knows only the code: it gathers the parameters of
a request from the form and, where that is allowed, from the query, joins the verifier to the
code, and passes them on. OAuth errors become answers with status 400, and so does a form that
cannot be read. The handler may keep a state, which the endpoint hands through; that an answer
cannot be written or sent in the end does not undo what the handler did.
-/

namespace ProofKey

/-- Answers the parameters of a token request with the fields of a token response. -/
abbrev GrantHandler (σ : Type) := Parameters → σ → Report (Mapping Json) × σ

/-- An endpoint, which is found under a route and sees requests through a framework. -/
structure TokenEndpoint (σ : Type) where
  handler : GrantHandler σ
  allowQueryString : Bool := true
  route : Http.Route := Http.Route.ofPath "/oauth/token"
  front : Http.Front := .standard

namespace TokenEndpoint

variable {σ : Type}

def parametersOf (m : Mapping Text) : Parameters := m.map some

/-- The answer to a request whose method is not supported here. -/
def methodNotAllowed (method : Text) : Http.Response :=
  Http.jsonCacheable 405 (Http.errorBody
    { error := "method_not_allowed",
      description := some ("Request method '" ++ method ++ "' not supported") })

/-- Sends a response, for which its body may have no surrogates. -/
def send (response : Http.Response) : Report Http.Response :=
  match Run.surrogates? response.body with
  | none => .ok response
  | some run => .fail (.surrogates run)

def rejection (error : OAuthError) : Report Http.Response :=
  (send (Http.json 400 (Http.errorBody error.response))).after
    [.requestRejected error.kind.name error.kind.code]

def tokenAnswer (body : Mapping Json) : Report Http.Response :=
  match Json.write (.object body.entries) with
  | .ok written => send (Http.json 200 written)
  | .error complaint => .fail (.notJson complaint)

/-- Joins the verifier to the code and asks the handler. -/
def exchange (handler : GrantHandler σ) (p : Parameters) (state : σ) :
    Report Http.Response × σ :=
  match CodeValue.merge p with
  | .error error => (rejection error, state)
  | .ok merged =>
      let (report, next) := handler merged state
      match report.result with
      | .ok body => ((tokenAnswer body).after report.log, next)
      | .error (.refused error) => ((rejection error).after report.log, next)
      | .error (.fault fault) => (⟨.error (.fault fault), report.log⟩, next)

def queryParameters (e : TokenEndpoint σ) (request : Http.Request) : Mapping Text :=
  (e.front.query request).mapping

/-- The parameters of a POST request: those of the query, if it may be used, and over them the
texts of the form. -/
def postParameters (e : TokenEndpoint σ) (request : Http.Request) :
    Except Http.FormFailure (Mapping Text) :=
  let base := if e.allowQueryString then e.queryParameters request else Mapping.empty
  (e.front.form request).map fun form =>
    base.insertAll (form.mapping.filterMap Form.Item.text?).entries

/-- Answers a POST request whose URL has a query or none. A query that may not be used keeps the
request from the handler, and then a form that cannot be read does. -/
def postWith (e : TokenEndpoint σ) (query : Text) (request : Http.Request) (state : σ) :
    Report Http.Response × σ :=
  if !query.isEmpty && !e.allowQueryString then
    (⟨.ok (methodNotAllowed "POST"), [.queryNotAllowed]⟩, state)
  else
    match e.postParameters request with
    | .ok parameters => exchange e.handler (parametersOf parameters) state
    | .error (.refused message) => (send (Http.plain 400 [] message), state)
    | .error (.fault fault) => (.fail fault, state)

/-- Answers a POST request. The URL is looked at first, whether or not its query may be used. -/
def post (e : TokenEndpoint σ) (request : Http.Request) (state : σ) :
    Report Http.Response × σ :=
  match e.front.urlQuery request with
  | .ok query => e.postWith query request state
  | .error fault => (.fail fault, state)

/-- Answers a GET request, which has nothing but its query. -/
def get (e : TokenEndpoint σ) (request : Http.Request) (state : σ) : Report Http.Response × σ :=
  if e.allowQueryString then
    exchange e.handler (parametersOf (e.queryParameters request)) state
  else (.ok (methodNotAllowed "GET"), state)

/-- Answers by the method of a request: HEAD as GET, and no other methods. -/
def dispatch (e : TokenEndpoint σ) (request : Http.Request) (state : σ) :
    Report Http.Response × σ :=
  if request.method = Text.ofString "POST" then e.post request state
  else if request.method = Text.ofString "GET" ∨ request.method = Text.ofString "HEAD" then
    e.get request state
  else (.ok (Http.plain 405 [("allow", "POST")] "Method Not Allowed"), state)

/-- Answers any request whose path fits the route. Numbers in the path have to be short enough,
whatever the method is. -/
def respond (e : TokenEndpoint σ) (request : Http.Request) (state : σ) :
    Report Http.Response × σ :=
  match e.route.fill? request.path with
  | none => (.ok (Http.plain 404 [] "Not Found"), state)
  | some parameters =>
      match Http.Route.excess? digitLimit parameters with
      | some digits => (.fail (.tooManyDigits digits), state)
      | none => e.dispatch request state

end TokenEndpoint

namespace CodeStore

/-- A bearer token for the client that a code was issued for. -/
def bearerToken (stored : Parameters) : Mapping Json :=
  let client := (stored.value? "client_id").getD []
  Mapping.ofList [("access_token", .text ("token-for-" ++ client)), ("token_type", .text "Bearer")]

/-- The grant handler of a code store: redeems the code of a request and answers a bearer token. -/
def grant : GrantHandler CodeStore := fun p store =>
  let (report, next) := store.consume ((p.value? Parameters.codeName).getD [])
  (report.bind fun stored => .ok (bearerToken stored), next)

end CodeStore

end ProofKey
