import ProofKey.Proofs.Error
import ProofKey.Proofs.Json
import ProofKey.TokenEndpoint

/-! # Answers reach the client

A body with surrogates cannot be sent. What a rejection says is free of them
even where it quotes the request, and a token response is if its texts are. A
client also sees from the body which of the two error codes it got.
-/

namespace ProofKey

namespace TokenEndpoint

variable {error other : OAuthError}

section Sending

theorem send_of_scalar {response : Http.Response} (scalar : response.body.Scalar) :
    send response = .ok response := by
  simp only [send, Text.surrogates?_eq_none_iff.mpr scalar]

theorem log_send (response : Http.Response) : (send response).log = [] := by
  unfold send
  split <;> rfl

theorem log_tokenAnswer (body : Mapping Json) : (tokenAnswer body).log = [] := by
  unfold tokenAnswer
  split
  · exact log_send _
  · rfl

theorem log_rejection (error : OAuthError) :
    (rejection error).log = [.requestRejected error.kind.name error.kind.code] := by
  simp [rejection, Report.after, log_send]

theorem scalar_errorBody (described : error.description.Scalar) :
    (Http.errorBody error.response).Scalar := by
  refine Json.scalar_braces fun piece member => ?_
  obtain ⟨⟨name, value⟩, field, rfl⟩ := List.mem_map.mp member
  simp only [ErrorResponse.parameters, ErrorResponse.fields, OAuthError.response,
    List.filterMap_cons, List.filterMap_nil, Option.map_some, Option.map_none, List.mem_cons,
    Prod.mk.injEq, List.not_mem_nil, or_false] at field
  rcases field with ⟨rfl, rfl⟩ | ⟨rfl, rfl⟩
  · exact Json.scalar_member (Text.scalar_ofString _) (Json.scalar_string error.kind.scalar_code)
  · exact Json.scalar_member (Text.scalar_ofString _) (Json.scalar_string described)

theorem result_rejection (described : error.description.Scalar) :
    (rejection error).result = .ok (Http.json 400 (Http.errorBody error.response)) :=
  congrArg Report.result (send_of_scalar (scalar_errorBody described))

theorem tokenAnswer_of_sendable {body : Mapping Json}
    (sendable : (Json.object body.entries).Sendable) :
    ∃ written, tokenAnswer body = .ok (Http.json 200 written) := by
  obtain ⟨written, here, scalar⟩ := sendable.writable
  exact ⟨written, by simp only [tokenAnswer, here]; exact send_of_scalar scalar⟩

theorem status_of_tokenAnswer {body : Mapping Json} {response : Http.Response}
    (h : (tokenAnswer body).result = .ok response) : response.status = 200 := by
  unfold tokenAnswer at h
  split at h
  · unfold send at h
    split at h
    · obtain rfl := Except.ok.inj h
      rfl
    · simp [Report.fail] at h
  · simp [Report.fail] at h

end Sending

/-- What can be wrong with a token request, other than that its code cannot be redeemed. -/
def requestErrors (methodId : Text) : List OAuthError :=
  [.codeWithSpace, .emptyVerifier, .missingVerifier, .missingChallenge,
    .methodNotRegistered methodId, .malformedChallenge, .malformedVerifier]

theorem code_of_requestErrors {methodId : Text} (member : error ∈ requestErrors methodId) :
    error.kind.code = "invalid_request" := by
  simp only [requestErrors, List.mem_cons, List.not_mem_nil, or_false] at member
  rcases member with rfl | rfl | rfl | rfl | rfl | rfl | rfl <;> rfl

theorem scalar_of_requestErrors {methodId : Text} (member : error ∈ requestErrors methodId) :
    error.description.Scalar := by
  simp only [requestErrors, List.mem_cons, List.not_mem_nil, or_false] at member
  rcases member with rfl | rfl | rfl | rfl | rfl | rfl | rfl
  · exact Text.scalar_ofString _
  · exact Text.scalar_ofString _
  · exact Text.scalar_ofString _
  · exact Text.scalar_ofString _
  · exact (Text.scalar_ofString _).append (Text.scalar_quoted methodId)
  · exact OAuthError.scalar_malformedChallenge
  · exact OAuthError.scalar_malformedVerifier

/-- The body of a rejection shows the error code; the two codes part at their ninth letter. -/
theorem code_of_rejection
    (same : Http.json 400 (Http.errorBody error.response) =
      Http.json 400 (Http.errorBody other.response)) : error.kind.code = other.kind.code := by
  have letter : ∀ e : OAuthError, (Http.errorBody e.response)[18]? = e.kind.code[8]? := by
    rintro ⟨kind, description⟩
    cases kind <;> rfl
  have agree : error.kind.code[8]? = other.kind.code[8]? := by
    rw [← letter error, ← letter other]
    exact congrArg (fun response => response.body[18]?) same
  have parted : (Text.ofString "invalid_grant")[8]? ≠ (Text.ofString "invalid_request")[8]? := by
    decide
  have codes : ∀ kind : ErrorKind, kind.code = Text.ofString "invalid_grant" ∨
      kind.code = Text.ofString "invalid_request" := by
    intro kind
    cases kind <;> simp [ErrorKind.code]
  rcases codes error.kind with here | here <;> rcases codes other.kind with there | there <;>
    simp_all

def Refused (answer : Report Http.Response) (code : Text) : Prop :=
  ∃ error : OAuthError, error.kind.code = code ∧
    answer.result = .ok (Http.json 400 (Http.errorBody error.response))

def Answers (answer : Report Http.Response) (status : Nat) : Prop :=
  ∃ response, answer.result = .ok response ∧ response.status = status

variable {answer : Report Http.Response} {code another : Text}

theorem answers_of_json {status : Nat} {body : Text}
    (h : answer.result = .ok (Http.json status body)) : Answers answer status :=
  ⟨_, h, rfl⟩

theorem answers_of_sendable {body : Mapping Json}
    (sendable : (Json.object body.entries).Sendable)
    (h : answer.result = (tokenAnswer body).result) : Answers answer 200 := by
  obtain ⟨written, sent⟩ := tokenAnswer_of_sendable sendable
  exact answers_of_json (h.trans (congrArg Report.result sent))

theorem refused_of_rejected (error : OAuthError) (described : error.description.Scalar)
    (h : answer.result = (rejection error).result) : Refused answer error.kind.code :=
  ⟨error, rfl, h.trans (result_rejection described)⟩

theorem refused_of_requestErrors {methodId : Text} (member : error ∈ requestErrors methodId)
    (h : answer.result = (rejection error).result) : Refused answer "invalid_request" := by
  have refused := refused_of_rejected error (scalar_of_requestErrors member) h
  rwa [code_of_requestErrors member] at refused

theorem Refused.code_eq (refused : Refused answer code) (too : Refused answer another) :
    code = another := by
  obtain ⟨error, rfl, here⟩ := refused
  obtain ⟨other, rfl, there⟩ := too
  exact code_of_rejection (Except.ok.inj (here.symm.trans there))

theorem Refused.answers (refused : Refused answer code) : Answers answer 400 := by
  obtain ⟨error, _, here⟩ := refused
  exact answers_of_json here

theorem Answers.status_eq {status other : Nat} (here : Answers answer status)
    (there : Answers answer other) : status = other := by
  obtain ⟨response, found, rfl⟩ := here
  obtain ⟨same, alsoFound, rfl⟩ := there
  rw [Except.ok.inj (found.symm.trans alsoFound)]

end TokenEndpoint

end ProofKey
