import ProofKey.Proofs.Secrecy
import ProofKey.Proofs.TokenEndpoint.Exchange

/-! # What the log tells of a redemption

A store and a token endpoint add their own lines to those of the checks, and these are
read off a class too: whether the code was known, the class of the evaluation, the
number of outstanding codes, the kind of error that a request ended with. So two
calls that bring different codes, challenges and verifiers, but come to the same
class, leave the same log.
-/

namespace ProofKey

/-- What an observer learns of a redemption: the code is unknown, or what the evaluation came to. -/
inductive RedemptionClass where
  | unknown
  | evaluated (evaluation : EvaluationClass)
  deriving DecidableEq

/-- What an observer learns of the issue of a code: the class of the authorization, and how many
codes are outstanding if a code was issued. -/
structure IssueClass where
  authorization : AuthorizationClass
  outstanding : Option Nat
  deriving DecidableEq

/-- What an observer learns of a token exchange: the verifier could not be joined to the code, or
what the redemption came to. -/
inductive ExchangeClass where
  | unjoined (kind : ErrorKind)
  | redeemed (redemption : RedemptionClass)
  deriving DecidableEq

/-- The event of a request that ended with an error of this kind. -/
def LogEvent.rejected (kind : ErrorKind) : LogEvent := .requestRejected kind.name kind.code

namespace RedemptionClass

/-- The kind of error that redemptions of this class end with. -/
def refusal? : RedemptionClass → Option ErrorKind
  | unknown => some .invalidGrant
  | evaluated (.failed kind) => kind
  | evaluated .noPkce => none
  | evaluated (.verified _ matched) => if matched then none else some .invalidGrant

def log : RedemptionClass → List LogEvent
  | unknown => [.unknownCode]
  | evaluated (.verified methodId false) => [.verdict methodId false, .codeRejected]
  | evaluated evaluation => evaluation.log

theorem mem_log_evaluated {evaluation : EvaluationClass} {event : LogEvent}
    (logged : event ∈ (evaluated evaluation).log) :
    event ∈ evaluation.log ∨ event = .codeRejected := by
  cases evaluation with
  | failed kind => exact .inl logged
  | noPkce => exact .inl logged
  | verified methodId matched =>
      cases matched with
      | true => exact .inl logged
      | false => simpa [log, EvaluationClass.log] using logged

end RedemptionClass

def IssueClass.log (c : IssueClass) : List LogEvent :=
  c.authorization.log ++ (c.outstanding.map LogEvent.codeIssued).toList

def ExchangeClass.log : ExchangeClass → List LogEvent
  | unjoined kind => [.rejected kind]
  | redeemed redemption => redemption.log ++ (redemption.refusal?.map LogEvent.rejected).toList

namespace Report

variable {α β : Type}

/-- The kind of error that a report ends with, if it ends with one. -/
def refusal? (r : Report α) : Option ErrorKind :=
  match r.result with
  | .ok _ => none
  | .error failure => failure.bare?

theorem bind_ok_observed (r : Report α) (f : α → β) :
    (r.bind fun value => .ok (f value)).refusal? = r.refusal? ∧
      (r.bind fun value => .ok (f value)).log = r.log := by
  obtain ⟨result, log⟩ := r
  cases result with
  | ok value => exact ⟨rfl, List.append_nil log⟩
  | error failure => exact ⟨rfl, rfl⟩

end Report

namespace CodeStore

open TokenEndpoint

variable {s : CodeStore} {p : Parameters} {value : Text} {event : LogEvent}

def redemptionClass (s : CodeStore) (value : Text) : RedemptionClass :=
  let (code, verifier) := CodeValue.decode value
  match s.outstanding.get? code with
  | none => .unknown
  | some stored => .evaluated (s.registry.evaluationClass stored verifier)

def issueClass (s : CodeStore) (p : Parameters) : IssueClass where
  authorization := s.registry.authorizationClass p
  outstanding := (s.issue p).1.result.toOption.map fun _ => (s.issue p).2.size

/-- A grant handler that does nothing with the store but to redeem a code value, which it finds in
the request in any way. -/
def consuming (value : Parameters → Text)
    (body : Parameters → Parameters → Mapping Json) : GrantHandler CodeStore :=
  fun request s =>
    let (report, next) := s.consume (value request)
    (report.bind fun stored => .ok (body request stored), next)

/-- The class of a token exchange, whose handler redeems a value that it finds in the request. -/
def exchangeClass (s : CodeStore) (value : Parameters → Text) (p : Parameters) : ExchangeClass :=
  match CodeValue.merge p with
  | .error error => .unjoined error.kind
  | .ok merged => .redeemed (s.redemptionClass (value merged))

section Redemption

theorem settle_observed {r : Registry} (builtIn : r.BuiltIn) (stored : Parameters)
    (verifier : Option Text) :
    let c := RedemptionClass.evaluated (r.evaluationClass stored verifier)
    (settle r stored verifier).refusal? = c.refusal? ∧ (settle r stored verifier).log = c.log := by
  unfold settle Registry.evaluationClass
  rcases Registry.evaluate_cases builtIn stored verifier with
    ⟨_, report⟩ | report | ⟨matched, _, report⟩
  · rw [report]
    exact ⟨rfl, rfl⟩
  · rw [report]
    exact ⟨rfl, rfl⟩
  · rw [report]
    cases matched <;> exact ⟨rfl, rfl⟩

/-- The error and the log of a redemption are those of its class. -/
theorem consume_observed (builtIn : s.registry.BuiltIn) (value : Text) :
    (s.consume value).1.refusal? = (s.redemptionClass value).refusal? ∧
      (s.consume value).1.log = (s.redemptionClass value).log := by
  cases held : s.outstanding.get? (CodeValue.decode value).1 with
  | none =>
      rw [consume_of_unknown held]
      simp only [redemptionClass, held]
      exact ⟨rfl, rfl⟩
  | some stored =>
      rw [consume_of_known held]
      simp only [redemptionClass, held]
      exact settle_observed builtIn stored _

theorem discreet_consume (builtIn : s.registry.BuiltIn)
    (logged : event ∈ (s.consume value).1.log) : event.Discreet s.registry := by
  cases held : s.outstanding.get? (CodeValue.decode value).1 with
  | none =>
      rw [consume_of_unknown held] at logged
      obtain rfl := List.mem_singleton.mp logged
      trivial
  | some stored =>
      rw [consume_of_known held, (settle_observed builtIn stored _).2] at logged
      rcases RedemptionClass.mem_log_evaluated logged with checked | rfl
      · rw [← Registry.log_evaluate builtIn] at checked
        exact Registry.discreet_evaluate builtIn checked
      · trivial

end Redemption

section Issue

theorem log_place (s : CodeStore) (p : Parameters) (fresh : Except Fault Text) :
    (s.place p fresh).1.log =
      (((s.place p fresh).1.result.toOption.map fun _ => (s.place p fresh).2.size).map
        LogEvent.codeIssued).toList := by
  unfold place
  cases fresh with
  | error fault => rfl
  | ok code =>
      dsimp only
      split
      · rfl
      · split <;> rfl

theorem log_issue (s : CodeStore) (p : Parameters) : (s.issue p).1.log = (s.issueClass p).log := by
  unfold IssueClass.log issueClass
  rw [← Registry.log_authorize]
  cases accepted : (s.registry.authorize p).result with
  | error failure => simp [issue_of_refused accepted, Except.toOption]
  | ok binding =>
      rw [issue_of_accepted accepted]
      exact congrArg ((s.registry.authorize p).log ++ ·) (log_place _ p _)

theorem discreet_issue (logged : event ∈ (s.issue p).1.log) : event.Discreet s.registry := by
  simp only [log_issue, IssueClass.log, List.mem_append, Option.mem_toList,
    Option.map_eq_some_iff] at logged
  rcases logged with checked | ⟨size, -, rfl⟩
  · exact Registry.discreet_authorize (by rwa [Registry.log_authorize])
  · trivial

end Issue

section Exchange

variable {merged : Parameters} (find : Parameters → Text)
  (body : Parameters → Parameters → Mapping Json)

/-- The endpoint adds one event to those of its handler, and only if the handler ends with an
error. -/
theorem log_exchange_of_joined {σ : Type} (handler : GrantHandler σ) (state : σ)
    (joined : CodeValue.merge p = .ok merged) :
    (exchange handler p state).1.log = (handler merged state).1.log ++
      ((handler merged state).1.refusal?.map LogEvent.rejected).toList := by
  rcases called : handler merged state with ⟨⟨result, log⟩, next⟩
  cases result with
  | ok body => simp [exchange, joined, called, Report.refusal?, Report.after, log_tokenAnswer]
  | error failure =>
      cases failure with
      | refused error =>
          simp [exchange, joined, called, Report.refusal?, Failure.bare?, Report.after,
            log_rejection, LogEvent.rejected, ErrorKind.name_bare, ErrorKind.code_bare]
      | fault fault => simp [exchange, joined, called, Report.refusal?, Failure.bare?]

theorem log_exchange (builtIn : s.registry.BuiltIn) :
    (exchange (consuming find body) p s).1.log = (s.exchangeClass find p).log := by
  cases joined : CodeValue.merge p with
  | error error =>
      rw [exchange_of_unjoined joined]
      simp only [exchangeClass, joined]
      exact log_rejection error
  | ok merged =>
      obtain ⟨refused, logged⟩ := consume_observed builtIn (find merged)
      obtain ⟨refusal, log⟩ :=
        Report.bind_ok_observed (s.consume (find merged)).1 (body merged)
      simp only [exchangeClass, joined]
      -- the handler makes a response of what was redeemed, and neither logs nor refuses anything
      rw [log_exchange_of_joined _ _ joined, ExchangeClass.log, ← refused, ← logged, ← refusal,
        ← log]
      rfl

theorem discreet_exchange (builtIn : s.registry.BuiltIn)
    (logged : event ∈ (exchange (consuming find body) p s).1.log) :
    event.Discreet s.registry := by
  rw [log_exchange find body builtIn] at logged
  cases joined : CodeValue.merge p with
  | error error =>
      simp only [exchangeClass, joined, ExchangeClass.log, List.mem_singleton] at logged
      subst logged
      exact ⟨error.kind, rfl, rfl⟩
  | ok merged =>
      simp only [exchangeClass, joined, ExchangeClass.log, List.mem_append, Option.mem_toList,
        Option.map_eq_some_iff] at logged
      rcases logged with redeemed | ⟨kind, -, rfl⟩
      · exact discreet_consume builtIn (by rwa [(consume_observed builtIn _).2])
      · exact ⟨kind, rfl, rfl⟩

end Exchange

section Operations

/-- What a client can have a server do with its codes, challenges and verifiers. -/
inductive Operation where
  | evaluate (p : Parameters) (verifier : Option Text)
  | authorize (p : Parameters)
  | consume (value : Text)
  | issue (p : Parameters)
  /-- A token exchange, whose handler finds the code value in the request, redeems it, and makes a
  token response of what the code was issued for. -/
  | exchange (find : Parameters → Text) (body : Parameters → Parameters → Mapping Json)
      (p : Parameters)

/-- Which operation it was, and its class. -/
inductive OperationClass where
  | evaluated (evaluation : EvaluationClass)
  | authorized (authorization : AuthorizationClass)
  | consumed (redemption : RedemptionClass)
  | issued (issue : IssueClass)
  | exchanged (exchange : ExchangeClass)
  deriving DecidableEq

def emitted (s : CodeStore) : Operation → List LogEvent
  | .evaluate p verifier => (s.registry.evaluate p verifier).log
  | .authorize p => (s.registry.authorize p).log
  | .consume value => (s.consume value).1.log
  | .issue p => (s.issue p).1.log
  | .exchange find body p => (exchange (consuming find body) p s).1.log

def classify (s : CodeStore) : Operation → OperationClass
  | .evaluate p verifier => .evaluated (s.registry.evaluationClass p verifier)
  | .authorize p => .authorized (s.registry.authorizationClass p)
  | .consume value => .consumed (s.redemptionClass value)
  | .issue p => .issued (s.issueClass p)
  | .exchange find _ p => .exchanged (s.exchangeClass find p)

def OperationClass.log : OperationClass → List LogEvent
  | evaluated evaluation => evaluation.log
  | authorized authorization => authorization.log
  | consumed redemption => redemption.log
  | issued issue => issue.log
  | exchanged exchange => exchange.log

theorem emitted_eq (builtIn : s.registry.BuiltIn) (operation : Operation) :
    s.emitted operation = (s.classify operation).log := by
  cases operation with
  | evaluate p verifier => exact Registry.log_evaluate builtIn p verifier
  | authorize p => exact Registry.log_authorize _ p
  | consume value => exact (consume_observed builtIn value).2
  | issue p => exact log_issue s p
  | exchange find body p => exact log_exchange find body builtIn

theorem discreet_emitted (builtIn : s.registry.BuiltIn) {operation : Operation}
    (logged : event ∈ s.emitted operation) : event.Discreet s.registry := by
  cases operation with
  | evaluate p verifier => exact Registry.discreet_evaluate builtIn logged
  | authorize p => exact Registry.discreet_authorize logged
  | consume value => exact discreet_consume builtIn logged
  | issue p => exact discreet_issue logged
  | exchange find body p => exact discreet_exchange find body builtIn logged

/-- Under the built-in transforms the log tells no more than the class of an operation: any two
calls of the same operation and class leave the same log, whatever the stores and the codes,
challenges and verifiers are. No event shows anything that a client sent but a registered method id,
and no verifier is ever quoted as one that cannot be hashed. -/
theorem log_tells_only_class {s s' : CodeStore} (builtIn : s.registry.BuiltIn)
    (builtIn' : s'.registry.BuiltIn) :
    (∀ operation operation', s.classify operation = s'.classify operation' →
      s.emitted operation = s'.emitted operation') ∧
    ∀ operation, ∀ event ∈ s.emitted operation,
      event.Discreet s.registry ∧ ∀ run, event ≠ .unhashableVerifier run := by
  refine ⟨?_, ?_⟩
  · intro operation operation' same
    rw [emitted_eq builtIn, emitted_eq builtIn', same]
  · intro operation event logged
    have discreet := discreet_emitted builtIn logged
    refine ⟨discreet, ?_⟩
    rintro run rfl
    exact discreet

/-- Two clients guess at verifiers. Codes, challenges, verifiers and registries all differ, and the
logs do not. -/
theorem log_tells_only_class_sample :
    let request (challenge : Text) : Parameters :=
      Mapping.ofList [(Parameters.challengeName, some challenge)]
    let token (code verifier : Text) : Parameters := Mapping.ofList [
      (Parameters.codeName, some code), (Parameters.verifierName, some verifier)]
    let find (p : Parameters) : Text := (p.value? Parameters.codeName).getD []
    let guess (code verifier : Text) : Operation :=
      .exchange find (fun _ stored => bearerToken stored) (token code verifier)
    let s := ((empty Registry.initial fun _ => .ok "first").issue
      (request Challenge.sampleChallenge)).2
    let s' := ((empty (Registry.initial.register ⟨.s256, 1⟩) fun _ => .ok "second").issue
      (request Challenge.sampleVerifier)).2
    s.registry.BuiltIn ∧ s'.registry.BuiltIn ∧
      s.emitted (guess "first" Challenge.sampleVerifier) =
        [.verdict "plain" false, .codeRejected, .rejected .invalidGrant] ∧
      s.emitted (guess "first" Challenge.sampleVerifier) =
        s'.emitted (guess "second" Challenge.sampleChallenge) := by
  intro request token find guess s s'
  have builtIn : s.registry.BuiltIn := Registry.builtIn_initial
  have builtIn' : s'.registry.BuiltIn :=
    Registry.builtIn_initial.register (Transform.mem_builtIn_iff.mpr (.inl rfl))
  obtain ⟨alike, _⟩ := log_tells_only_class builtIn builtIn'
  refine ⟨builtIn, builtIn', ?_, alike _ _ ?_⟩
  · decide +kernel
  · decide +kernel

end Operations

end CodeStore

end ProofKey
