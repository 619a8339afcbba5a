import ProofKey.Log

/-!
# Reports

A report is what an operation answers: a value or a failure, and the events that it logged on the
way, which a failure does not undo.
-/

namespace ProofKey

/-- A result with the events logged until it was there. -/
structure Report (α : Type) where
  result : Except Failure α
  log : List LogEvent

namespace Report

variable {α β : Type}

def ok (value : α) : Report α := ⟨.ok value, []⟩

def refuse (error : OAuthError) : Report α := ⟨.error (.refused error), []⟩

def fail (fault : Fault) : Report α := ⟨.error (.fault fault), []⟩

/-- Logs some events before the report's own. -/
def after (events : List LogEvent) (r : Report α) : Report α := ⟨r.result, events ++ r.log⟩

/-- Goes on with the value; a failure stays as it is. -/
def bind (r : Report α) (next : α → Report β) : Report β :=
  match r.result with
  | .ok value => (next value).after r.log
  | .error failure => ⟨.error failure, r.log⟩

instance : Monad Report where
  pure := ok
  bind := bind

instance [Inhabited α] : Inhabited (Report α) := ⟨ok default⟩

theorem ok_bind (value : α) (next : α → Report β) : (ok value).bind next = next value := rfl

theorem result_bind (r : Report α) (next : α → Report β) :
    (r.bind next).result = r.result.bind fun value => (next value).result := by
  obtain ⟨result, log⟩ := r
  cases result <;> rfl

end Report

end ProofKey
