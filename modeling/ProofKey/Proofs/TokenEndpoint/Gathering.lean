import ProofKey.Proofs.CodeValue.Once
import ProofKey.Proofs.Http.Front
import ProofKey.Proofs.TokenEndpoint.Exchange

/-! # What a token request hands to the handler

Where the query may not be used, a request whose URL has a query is turned away, and
from any other request only its form counts. Where it may be used, a name that the form
has no text for has the value of the query. The code and the verifier are joined after
that, so it does not matter where each of them was sent. The gate looks at the URL,
which the framework puts together: what is sent as a query but begins with a `#` is a
fragment of it, and passes without being used.
-/

namespace ProofKey

namespace Http.Request

variable {request : Http.Request}

/-- A request that may bring a form. -/
def IsPost (request : Http.Request) : Prop := request.method = Text.ofString "POST"

/-- A request that brings nothing but its query. -/
def IsGet (request : Http.Request) : Prop :=
  request.method = Text.ofString "GET" ∨ request.method = Text.ofString "HEAD"

theorem IsGet.not_isPost (asked : request.IsGet) : ¬request.IsPost := by
  rintro posted
  rcases asked with same | same
  · exact absurd (posted.symm.trans same) (by decide)
  · exact absurd (posted.symm.trans same) (by decide)

end Http.Request

namespace TokenEndpoint

variable {σ : Type} {e : TokenEndpoint σ} {request : Http.Request} {state : σ}
  {handler : GrantHandler σ}

section Gathering

/-- What a request tells of a name: the text that its form has for it, and else, if the query may be
used, the value that its query has. Of several items with one name the last one counts, and an
upload is no text. -/
def said (allowed : Bool) (form : List (Text × Form.Item)) (query : List (Text × Text))
    (name : Text) : Option Text :=
  ((Mapping.last? form name).bind Form.Item.text?).or
    (if allowed then Mapping.last? query name else none)

/-- The parameters are what a request tells, and have no other names. -/
def Gathers (allowed : Bool) (form : List (Text × Form.Item)) (query : List (Text × Text))
    (p : Parameters) : Prop :=
  ∀ name, p.get? name = (said allowed form query name).map some

section Counted

variable (counts : e.front.LastCounts)

include counts

theorem gathers_queryParameters (request : Http.Request) :
    Gathers true [] (e.front.query request).items (parametersOf (e.queryParameters request)) := by
  intro name
  rw [parametersOf, Mapping.get?_map, queryParameters, counts.query]
  rfl

theorem gathers_postParameters {form : Http.Multi Form.Item}
    (read : e.front.form request = .ok form) :
    ∃ parameters, e.postParameters request = .ok parameters ∧
      Gathers e.allowQueryString form.items (e.front.query request).items
        (parametersOf parameters) := by
  let base := if e.allowQueryString then e.queryParameters request else Mapping.empty
  let fields := form.mapping.filterMap Form.Item.text?
  have gathered : e.postParameters request = .ok (base.insertAll fields.entries) := by
    rw [postParameters, read]
    rfl
  refine ⟨_, gathered, fun name => ?_⟩
  have inForm : fields.get? name = (Mapping.last? form.items name).bind Form.Item.text? := by
    rw [Mapping.get?_filterMap, counts.form _ _ read]
  have inQuery : base.get? name = if e.allowQueryString then
      Mapping.last? (e.front.query request).items name else none := by
    simp only [base]
    split
    · rw [queryParameters, counts.query]
    · exact Mapping.get?_empty name
  rw [parametersOf, Mapping.get?_map, Mapping.get?_insertAll, Mapping.last?_entries, inForm,
    inQuery, said]

end Counted

theorem postParameters_error {failure : Http.FormFailure}
    (unread : e.front.form request = .error failure) :
    e.postParameters request = .error failure := by
  rw [postParameters, unread]
  rfl

end Gathering

section Observing

/-- A handler that also notes the parameters that it is called with, the latest last. -/
def noting (handler : GrantHandler σ) : GrantHandler (σ × List Parameters) :=
  fun p (state, calls) =>
    let (report, next) := handler p state
    (report, next, calls ++ [p])

def noted (e : TokenEndpoint σ) : TokenEndpoint (σ × List Parameters) where
  handler := noting e.handler
  allowQueryString := e.allowQueryString
  route := e.route
  front := e.front

/-- The answer to a request, the state after it, and the parameters of each call of the handler. -/
def observe (e : TokenEndpoint σ) (request : Http.Request) (state : σ) :
    Report Http.Response × σ × List Parameters :=
  e.noted.dispatch request (state, [])

/-- The handler is called once if the parameters can be joined, and else not at all. -/
theorem exchange_noting (handler : GrantHandler σ) (p : Parameters) (state : σ)
    (calls : List Parameters) :
    exchange (noting handler) p (state, calls) = ((exchange handler p state).1,
      (exchange handler p state).2, calls ++ (CodeValue.merge p).toOption.toList) := by
  cases joined : CodeValue.merge p with
  | error error => simp [exchange, joined, Except.toOption]
  | ok merged =>
      cases called : handler merged state with
      | mk report next =>
          cases result : report.result with
          | ok body => simp [exchange, joined, noting, called, result, Except.toOption]
          | error failure =>
              cases failure <;>
                simp [exchange, joined, noting, called, result, Except.toOption]

/-- Nothing but the calls is noted: answer and state are what they are anyway. -/
theorem observe_eq_dispatch (e : TokenEndpoint σ) (request : Http.Request) (state : σ) :
    (e.observe request state).1 = (e.dispatch request state).1 ∧
      (e.observe request state).2.1 = (e.dispatch request state).2 := by
  have sameParameters : e.noted.postParameters request = e.postParameters request := rfl
  have sameQuery : e.noted.queryParameters request = e.queryParameters request := rfl
  simp only [observe, dispatch, post, postWith, get, sameParameters, sameQuery]
  simp only [noted, exchange_noting]
  split
  · split
    · split
      · exact ⟨rfl, rfl⟩
      · split <;> exact ⟨rfl, rfl⟩
    · exact ⟨rfl, rfl⟩
  · split
    · split <;> exact ⟨rfl, rfl⟩
    · exact ⟨rfl, rfl⟩

/-- The endpoint deals with parameters as it should: the handler is called with them once the
verifier is joined to the code, and its result is the answer; if they cannot be joined, the request
is rejected without a call. -/
structure Delivers (handler : GrantHandler σ) (state : σ) (p : Parameters)
    (outcome : Report Http.Response × σ × List Parameters) : Prop where
  refused : ∀ error, CodeValue.merge p = .error error → outcome = (rejection error, state, [])
  called : ∀ merged, CodeValue.merge p = .ok merged → outcome.2.2 = [merged] ∧
    outcome.1.result = answerTo (handler merged state).1.result ∧
    outcome.2.1 = (handler merged state).2
  joined : ∀ code verifier, p.Sends code verifier → CodeValue.separator ∉ code →
    Grammar.wellFormed verifier = true → ∃ merged, outcome.2.2 = [merged] ∧
      merged.value? Parameters.codeName = some (code ++ CodeValue.separator :: verifier) ∧
      ∀ name, name ≠ Parameters.codeName → merged.get? name = p.get? name

theorem delivers_exchange (handler : GrantHandler σ) (state : σ) (p : Parameters) :
    Delivers handler state p (exchange (noting handler) p (state, [])) := by
  have called : ∀ merged, CodeValue.merge p = .ok merged →
      (exchange (noting handler) p (state, [])).2.2 = [merged] := by
    intro merged joined
    rw [exchange_noting, joined]
    rfl
  refine ⟨?refused, ?called, ?joined⟩
  case refused =>
    intro error unjoined
    exact exchange_of_unjoined unjoined
  case called =>
    intro merged joined
    refine ⟨called merged joined, ?_⟩
    rw [exchange_noting]
    exact exchange_of_joined handler state joined
  case joined =>
    intro code verifier sends clean wf
    have encoded := CodeValue.encode_some_eq_ok_iff.mpr ⟨clean, wf, rfl⟩
    have joined := CodeValue.merge_of_sends sends
    rw [encoded, Except.map] at joined
    exact ⟨_, called _ joined, CodeValue.value?_of_joined joined sends,
      fun name => CodeValue.get?_of_joined joined⟩

end Observing

section Gate

def Shuts (e : TokenEndpoint σ) (query : Text) : Prop := e.allowQueryString = false ∧ query ≠ []

/-- A request that is turned away because the query may not be used. -/
def Closed (e : TokenEndpoint σ) (request : Http.Request) : Prop :=
  e.allowQueryString = false ∧ request.IsGet ∨
    request.IsPost ∧ ∃ query, e.front.urlQuery request = .ok query ∧ e.Shuts query

theorem dispatch_of_get (asked : request.IsGet) :
    e.dispatch request state = e.get request state := by
  rw [dispatch]
  exact (if_neg asked.not_isPost).trans (if_pos asked)

theorem dispatch_of_post (posted : request.IsPost) :
    e.dispatch request state = e.post request state := by
  rw [dispatch]
  exact if_pos posted

theorem dispatch_of_other (notAsked : ¬request.IsGet) (notPosted : ¬request.IsPost) :
    e.dispatch request state =
      (.ok (Http.plain 405 [("allow", "POST")] "Method Not Allowed"), state) := by
  rw [dispatch]
  exact (if_neg notPosted).trans (if_neg notAsked)

theorem observe_of_closed (state : σ) (closed : e.Closed request) :
    ∃ method, (e.observe request state).1.result = .ok (methodNotAllowed method) ∧
      (e.observe request state).2 = (state, []) := by
  obtain ⟨forbidden, asked⟩ | ⟨posted, query, found, forbidden, shown⟩ := closed
  · refine ⟨"GET", ?_⟩
    simp [observe, dispatch_of_get asked, get, noted, forbidden, Report.ok]
  · refine ⟨"POST", ?_⟩
    simp [observe, dispatch_of_post posted, post, postWith, noted, found, forbidden, shown]

section Posting

variable (posted : request.IsPost)

include posted

theorem observe_of_unknown_url {fault : Fault} (unknown : e.front.urlQuery request = .error fault) :
    e.observe request state = (.fail fault, state, []) := by
  have same : e.noted.front.urlQuery request = .error fault := unknown
  rw [observe, dispatch_of_post posted, post, same]

variable {query : Text} (found : e.front.urlQuery request = .ok query) (opened : ¬e.Shuts query)

include found opened

theorem observe_of_open : e.observe request state =
    match e.postParameters request with
    | .ok parameters => exchange (noting e.handler) (parametersOf parameters) (state, [])
    | .error (.refused message) => (send (Http.plain 400 [] message), state, [])
    | .error (.fault fault) => (.fail fault, state, []) := by
  have same : e.noted.front.urlQuery request = .ok query := found
  have passes : ¬(!query.isEmpty && !e.noted.allowQueryString) = true := by
    simpa [Shuts, noted, and_comm] using opened
  rw [observe, dispatch_of_post posted, post, same]
  dsimp only
  rw [postWith, if_neg passes]
  rfl

theorem observe_of_gathered {parameters : Mapping Text}
    (gathered : e.postParameters request = .ok parameters) :
    e.observe request state =
      exchange (noting e.handler) (parametersOf parameters) (state, []) := by
  rw [observe_of_open posted found opened, gathered]

theorem observe_of_unread {failure : Http.FormFailure}
    (unread : e.postParameters request = .error failure) :
    (e.observe request state).2 = (state, []) := by
  rw [observe_of_open posted found opened, unread]
  cases failure <;> rfl

end Posting

end Gate

end TokenEndpoint

end ProofKey
