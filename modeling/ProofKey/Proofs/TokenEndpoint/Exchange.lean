import ProofKey.Proofs.CodeStore.Run
import ProofKey.Proofs.CodeValue
import ProofKey.Proofs.TokenEndpoint.Rejection

/-! # What an exchange answers, and what it does to the codes

A token request can fail in three places. Joining the verifier to the code comes
first: what it refuses reaches no handler and burns no code. The store then
refuses codes that are not outstanding, and changes nothing either. Only an
outstanding code goes on to the PKCE check, and by then it is burned.
-/

namespace ProofKey

namespace TokenEndpoint

variable {σ : Type} {handler : GrantHandler σ} {p merged : Parameters} {state : σ}
  {error : OAuthError}

/-- What the endpoint makes of the result of its handler. -/
def answerTo : Except Failure (Mapping Json) → Except Failure Http.Response
  | .ok body => (tokenAnswer body).result
  | .error (.refused error) => (rejection error).result
  | .error (.fault fault) => .error (.fault fault)

/-- Without a joined code there is no call of the handler, whichever it is. -/
theorem exchange_of_unjoined (unjoined : CodeValue.merge p = .error error) :
    exchange handler p state = (rejection error, state) := by
  simp [exchange, unjoined]

theorem exchange_of_joined (handler : GrantHandler σ) (state : σ)
    (joined : CodeValue.merge p = .ok merged) :
    (exchange handler p state).1.result = answerTo (handler merged state).1.result ∧
      (exchange handler p state).2 = (handler merged state).2 := by
  cases called : handler merged state with
  | mk report next =>
      cases result : report.result with
      | ok body => simp [exchange, joined, called, result, answerTo, Report.after]
      | error failure =>
          cases failure <;> simp [exchange, joined, called, result, answerTo, Report.after]

theorem refused_rejection (unjoined : CodeValue.merge p = .error error)
    {code : Text} (coded : p.value? Parameters.codeName = some code) :
    Refused (rejection error) "invalid_request" := by
  have member := CodeValue.unjoined_error coded unjoined
  simp only [List.mem_cons, List.not_mem_nil, or_false] at member
  have listed : error ∈ requestErrors [] := by
    rcases member with rfl | rfl | rfl <;> simp [requestErrors]
  exact refused_of_requestErrors listed rfl

end TokenEndpoint

namespace CodeStore

open TokenEndpoint

/-- A grant handler that redeems the code of a request, and makes the token response from the
request and from what the code was issued for. -/
def redeeming (body : Parameters → Parameters → Mapping Json) : GrantHandler CodeStore :=
  fun request s =>
    let (report, next) := s.consume ((request.value? Parameters.codeName).getD [])
    (report.bind fun stored => .ok (body request stored), next)

theorem grant_eq_redeeming : grant = redeeming fun _ stored => bearerToken stored := rfl

theorem sendable_bearerToken {stored : Parameters}
    (client : ∀ id, stored.value? "client_id" = some id → id.Scalar) :
    (Json.object (bearerToken stored).entries).Sendable := by
  have clientScalar : Text.Scalar ((stored.value? "client_id").getD []) := by
    cases found : stored.value? "client_id" with
    | none => exact Text.scalar_ofString ""
    | some id => exact client id found
  have token := (Text.scalar_ofString "token-for-").append clientScalar
  have entries : (bearerToken stored).entries =
      [(Text.ofString "access_token",
          .text ("token-for-" ++ (stored.value? "client_id").getD [])),
        (Text.ofString "token_type", .text "Bearer")] := rfl
  rw [entries]
  refine .object ?_ ?_
  · simp [Text.scalar_ofString]
  · simpa using ⟨.text token, .text (Text.scalar_ofString "Bearer")⟩

section Joined

variable (body : Parameters → Parameters → Mapping Json) {s : CodeStore}
  {p merged stored : Parameters} {value : Text}

theorem exchange_redeeming (s : CodeStore) (joined : CodeValue.merge p = .ok merged)
    (carried : merged.value? Parameters.codeName = some value) :
    (exchange (redeeming body) p s).1.result =
        answerTo ((s.consume value).1.result.map (body merged)) ∧
      (exchange (redeeming body) p s).2 = (s.consume value).2 := by
  obtain ⟨result, next⟩ := exchange_of_joined (redeeming body) s joined
  rw [result, next]
  simp only [redeeming, carried, Option.getD_some, Report.result_bind]
  cases (s.consume value).1.result <;> simp [Except.bind, Except.map, Report.ok]

theorem exchange_of_unknown (joined : CodeValue.merge p = .ok merged)
    (carried : merged.value? Parameters.codeName = some value)
    (unknown : s.outstanding.get? (CodeValue.decode value).1 = none) :
    Refused (exchange (redeeming body) p s).1 "invalid_grant" ∧
      (exchange (redeeming body) p s).2 = s := by
  obtain ⟨result, next⟩ := exchange_redeeming body s joined carried
  rw [consume_of_unknown unknown] at result next
  refine ⟨?_, next⟩
  exact refused_of_rejected .invalidCode (Text.scalar_ofString _) result

section Verdict

variable (joined : CodeValue.merge p = .ok merged)
  (carried : merged.value? Parameters.codeName = some value)
  (known : s.outstanding.get? (CodeValue.decode value).1 = some stored)

include joined carried known

theorem exchange_of_known : (exchange (redeeming body) p s).1.result = answerTo
    (((s.registry.evaluate stored (CodeValue.decode value).2).result.bind fun outcome =>
      if outcome.grantAllowed then .ok stored else .error (.refused .invalidCode)).map
        (body merged)) := by
  rw [(exchange_redeeming body s joined carried).1, consume_of_known known, settle_result]

theorem exchange_of_allowed {outcome : Outcome} (allowed : outcome.grantAllowed = true)
    (verdict : (s.registry.evaluate stored (CodeValue.decode value).2).result = .ok outcome) :
    (exchange (redeeming body) p s).1.result = (tokenAnswer (body merged stored)).result := by
  rw [exchange_of_known body joined carried known, verdict]
  simp [allowed, Except.bind, Except.map, answerTo]

theorem exchange_of_admitted
    (admitted : s.registry.Admits stored (CodeValue.decode value).2) :
    (exchange (redeeming body) p s).1.result = (tokenAnswer (body merged stored)).result := by
  obtain ⟨outcome, verdict, allowed⟩ := Registry.evaluate_allows_iff.mpr admitted
  exact exchange_of_allowed body joined carried known allowed verdict

theorem refused_of_mismatch
    (verdict : (s.registry.evaluate stored (CodeValue.decode value).2).result =
      .ok (.verified false)) :
    Refused (exchange (redeeming body) p s).1 "invalid_grant" := by
  refine refused_of_rejected .invalidCode (Text.scalar_ofString _) ?_
  rw [exchange_of_known body joined carried known, verdict]
  rfl

theorem refused_of_failure (steady : s.registry.Steady) {failure : Failure}
    (verdict : (s.registry.evaluate stored (CodeValue.decode value).2).result = .error failure) :
    Refused (exchange (redeeming body) p s).1 "invalid_request" := by
  obtain ⟨error, member, rfl⟩ := Registry.evaluate_error steady verdict
  have listed : error ∈ requestErrors stored.methodId :=
    List.mem_cons_of_mem _ (List.mem_cons_of_mem _ member)
  refine refused_of_requestErrors listed ?_
  rw [exchange_of_known body joined carried known, verdict]
  rfl

/-- Which of the three answers comes is decided by the PKCE check alone, as long as the token
response can be sent. -/
theorem answer_iff_verdict (steady : s.registry.Steady) :
    let answer := (exchange (redeeming body) p s).1
    let verdict := (s.registry.evaluate stored (CodeValue.decode value).2).result
    ((Json.object (body merged stored).entries).Sendable →
      (Answers answer 200 ↔ verdict = .ok .noPkce ∨ verdict = .ok (.verified true))) ∧
    (Refused answer "invalid_grant" ↔ verdict = .ok (.verified false)) ∧
    (Refused answer "invalid_request" ↔ ∃ failure, verdict = .error failure) := by
  intro answer verdict
  have notGranted {code : Text} (refused : Refused answer code) : ¬Answers answer 200 :=
    fun granted => absurd (refused.answers.status_eq granted) (by decide)
  have apart : ¬(Refused answer "invalid_grant" ∧ Refused answer "invalid_request") :=
    fun both => absurd (both.1.code_eq both.2) (by decide)
  -- each verdict forces its own answer, and the three answers exclude one another
  cases evaluated : verdict with
  | error failure =>
      have refused : Refused answer "invalid_request" :=
        refused_of_failure body joined carried known steady evaluated
      have notGrant : ¬Refused answer "invalid_grant" := fun also => apart ⟨also, refused⟩
      simp [refused, notGrant, notGranted refused]
  | ok outcome =>
      cases allowed : outcome.grantAllowed with
      | true =>
          have answered : answer.result = (tokenAnswer (body merged stored)).result :=
            exchange_of_allowed body joined carried known allowed evaluated
          have granted (sendable : (Json.object (body merged stored).entries).Sendable) :
              Answers answer 200 := answers_of_sendable sendable answered
          have notRefused (code : Text) : ¬Refused answer code := by
            rintro ⟨error, _, here⟩
            have status : 400 = 200 := status_of_tokenAnswer (answered.symm.trans here)
            exact absurd status (by decide)
          cases outcome <;> simp_all [Outcome.grantAllowed]
      | false =>
          cases outcome with
          | noPkce => simp [Outcome.grantAllowed] at allowed
          | verified matched =>
              obtain rfl : matched = false := allowed
              have refused : Refused answer "invalid_grant" :=
                refused_of_mismatch body joined carried known evaluated
              have notRequest : ¬Refused answer "invalid_request" :=
                fun also => apart ⟨refused, also⟩
              simp [refused, notRequest, notGranted refused]

end Verdict

end Joined

section Requests

variable {p : Parameters} {code : Text}

/-- Endpoint and store settle every token request with a code. If the verifier cannot be joined to
the code, no handler is called, no code is burned, and redemptions that would have passed before
still pass. Otherwise an unknown code changes nothing, and an outstanding one is burned, whichever
of the three answers the PKCE check then leads to. Where it lets the code pass, the answer is the
token response, which is one with status 200 if the handler has made it of values that can be
sent. -/
theorem exchange_settles (s : CodeStore) (steady : s.registry.Steady)
    (body : Parameters → Parameters → Mapping Json)
    (coded : p.value? Parameters.codeName = some code) :
    let answer := (exchange (redeeming body) p s).1
    let next := (exchange (redeeming body) p s).2
    ((∃ error, CodeValue.merge p = .error error) ↔
      ∃ verifier, p.value? Parameters.verifierName = some verifier ∧
        (CodeValue.separator ∈ code ∨ Grammar.wellFormed verifier = false)) ∧
    (∀ error, CodeValue.merge p = .error error →
      (∀ (σ : Type) (handler : GrantHandler σ) (state : σ),
        exchange handler p state = (rejection error, state)) ∧
      Refused answer "invalid_request" ∧ next = s ∧
      ∀ later merged value stored, CodeValue.merge later = .ok merged →
        merged.value? Parameters.codeName = some value →
        s.outstanding.get? (CodeValue.decode value).1 = some stored →
        s.registry.Admits stored (CodeValue.decode value).2 →
        let again := (exchange (redeeming body) later next).1
        again.result = (tokenAnswer (body merged stored)).result ∧
        ((Json.object (body merged stored).entries).Sendable → Answers again 200)) ∧
    (∀ merged, CodeValue.merge p = .ok merged →
      ∃ value, merged.value? Parameters.codeName = some value ∧
      (s.outstanding.get? (CodeValue.decode value).1 = none →
        Refused answer "invalid_grant" ∧ next = s) ∧
      (∀ stored, s.outstanding.get? (CodeValue.decode value).1 = some stored →
        let verdict := (s.registry.evaluate stored (CodeValue.decode value).2).result
        let granted := verdict = .ok .noPkce ∨ verdict = .ok (.verified true)
        s.Burned (CodeValue.decode value).1 next ∧
        (granted → answer.result = (tokenAnswer (body merged stored)).result) ∧
        ((Json.object (body merged stored).entries).Sendable → (Answers answer 200 ↔ granted)) ∧
        (Refused answer "invalid_grant" ↔ verdict = .ok (.verified false)) ∧
        (Refused answer "invalid_request" ↔ ∃ failure, verdict = .error failure))) := by
  intro answer next
  refine ⟨CodeValue.unjoined_iff coded, ?unjoined, ?joined⟩
  case unjoined =>
    intro error unjoined
    have untouched (σ : Type) (handler : GrantHandler σ) (state : σ) :
        exchange handler p state = (rejection error, state) := exchange_of_unjoined unjoined
    have same : next = s := congrArg Prod.snd (untouched _ (redeeming body) s)
    have rejected : answer = rejection error := congrArg Prod.fst (untouched _ (redeeming body) s)
    refine ⟨untouched, rejected ▸ refused_rejection unjoined coded, same, ?_⟩
    intro later merged value stored joined carried known admitted again
    have answered : again.result = (tokenAnswer (body merged stored)).result := by
      rw [show again = (exchange (redeeming body) later s).1 from same ▸ rfl]
      exact exchange_of_admitted body joined carried known admitted
    exact ⟨answered, fun sendable => answers_of_sendable sendable answered⟩
  case joined =>
    intro merged joined
    obtain ⟨value, carried⟩ := CodeValue.exists_code_of_joined coded joined
    refine ⟨value, carried, exchange_of_unknown body joined carried, ?_⟩
    intro stored known verdict granted
    obtain ⟨answered, mismatched, failed⟩ :=
      answer_iff_verdict body joined carried known steady
    have consumed : next = (s.consume value).2 := (exchange_redeeming body s joined carried).2
    refine ⟨consumed ▸ burned_consume known, ?_, answered, mismatched, failed⟩
    rintro (evaluated | evaluated)
    · exact exchange_of_allowed body joined carried known rfl evaluated
    · exact exchange_of_allowed body joined carried known rfl evaluated

/-- A client that first sends a malformed verifier loses nothing: its code still gets a token. -/
theorem exchange_settles_sample :
    let p : Parameters := Mapping.ofList [("client_id", some "app"),
      (Parameters.challengeName, some Challenge.sampleChallenge),
      (Parameters.methodName, some Transform.s256Id)]
    let registry := Registry.initial.register ⟨.s256, 1⟩
    let s := ((empty registry fun _ => .ok "code").issue p).2
    let request (verifier : Text) : Parameters := Mapping.ofList [
      (Parameters.codeName, some "code"), (Parameters.verifierName, some verifier)]
    let refused := exchange grant (request "short") s
    Refused refused.1 "invalid_request" ∧ refused.2 = s ∧
      Answers (exchange grant (request Challenge.sampleVerifier) refused.2).1 200 := by
  intro p registry s request refused
  have steady : s.registry.Steady :=
    Registry.steady_initial.register Transform.s256_total
  have coded (verifier : Text) :
      (request verifier).value? Parameters.codeName = some (Text.ofString "code") := by
    rfl
  have sent (verifier : Text) :
      (request verifier).value? Parameters.verifierName = some verifier := by
    rfl
  have settled := exchange_settles s steady (fun _ stored => bearerToken stored) (coded "short")
  rw [← grant_eq_redeeming] at settled
  obtain ⟨fails, unjoined, _⟩ := settled
  obtain ⟨error, failed⟩ := fails.mpr ⟨"short", sent "short", .inr (by decide)⟩
  obtain ⟨_, rejected, same, redeems⟩ := unjoined error failed
  refine ⟨rejected, same, ?_⟩
  let value : Text := "code" ++ CodeValue.separator :: Challenge.sampleVerifier
  have clean : CodeValue.separator ∉ Text.ofString "code" := by decide
  have wf : Grammar.wellFormed Challenge.sampleVerifier = true := by decide +kernel
  have joined : CodeValue.merge (request Challenge.sampleVerifier) =
      .ok ((request Challenge.sampleVerifier).insert Parameters.codeName (some value)) := by
    rw [CodeValue.merge_eq (coded _), sent, CodeValue.encode_some_eq_ok_iff.mpr ⟨clean, wf, rfl⟩]
    rfl
  have answered := redeems _ _ value p joined (Parameters.value?_insert_self _ _ value)
  rw [CodeValue.decode_joined clean] at answered
  have verified := Registry.verifies_sample (r := s.registry) (p := p) rfl rfl
  obtain ⟨_, granted⟩ := answered rfl (.inl ⟨_, _, rfl, verified⟩)
  refine granted (sendable_bearerToken fun id named => ?_)
  obtain rfl : Text.ofString "app" = id := Option.some.inj named
  exact Text.scalar_ofString _

end Requests

end CodeStore

end ProofKey
