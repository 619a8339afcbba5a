import ProofKey.Proofs.Evaluation

/-! # Runs of a code store

A run is any finite sequence of calls, each with whatever answer the store gives.
Refused calls are calls too: `history` records every call with its report, and
`after` is the store at the end. What a single call can do to the store is said
once, for each operation, and every statement about runs is derived from that.
-/

namespace ProofKey.CodeStore

inductive Call where
  /-- An authorization request asks for a code. -/
  | issue (p : Parameters)
  /-- A code value is redeemed. -/
  | consume (value : Text)
  /-- The registry of the store gets an instance of a transform. -/
  | register (registration : Registration)

/-- A call with what it answered. -/
inductive Record where
  | issued (p : Parameters) (report : Report Text)
  | consumed (value : Text) (report : Report Parameters)
  | registered (registration : Registration) (report : Report Unit)

/-- The code that a record touches: the one that was issued or presented. -/
def Record.code? : Record → Option Text
  | issued _ report => report.result.toOption
  | consumed value _ => some (CodeValue.decode value).1
  | registered _ _ => none

/-- What a record leaves stored under the code that it touches. -/
def Record.kept? : Record → Option Parameters
  | issued p _ => some p
  | consumed _ _ => none
  | registered _ _ => none

def perform (s : CodeStore) : Call → Record × CodeStore
  | .issue p => (.issued p (s.issue p).1, (s.issue p).2)
  | .consume value => (.consumed value (s.consume value).1, (s.consume value).2)
  | .register registration =>
      (.registered registration (s.register registration).1, (s.register registration).2)

def after (s : CodeStore) : List Call → CodeStore
  | [] => s
  | call :: more => (s.perform call).2.after more

def history (s : CodeStore) : List Call → List Record
  | [] => []
  | call :: more => (s.perform call).1 :: (s.perform call).2.history more

variable {s : CodeStore} {p stored : Parameters} {code value : Text} {failure : Failure}

section Issue

variable {fresh : Except Fault Text}

theorem place_eq_ok_iff : (s.place p fresh).1.result = .ok code ↔
    fresh = .ok code ∧ CodeValue.separator ∉ code ∧ s.outstanding.get? code = none := by
  cases fresh with
  | error fault => simp [place, Report.fail]
  | ok drawn =>
      by_cases spaced : CodeValue.separator ∈ drawn
      · have apart : drawn = code → CodeValue.separator ∈ code := fun same => same ▸ spaced
        simpa [place, spaced, Report.fail] using fun same clean => absurd (apart same) clean
      · cases taken : s.outstanding.get? drawn with
        | none =>
            simp only [place, spaced, Mapping.contains, taken, if_false, Option.isSome_none,
              Bool.false_eq_true, Except.ok.injEq]
            constructor
            · rintro rfl
              exact ⟨rfl, spaced, taken⟩
            · exact fun h => h.1
        | some q =>
            simp only [place, spaced, Mapping.contains, taken, if_false, Option.isSome_some,
              if_true, Report.fail, reduceCtorEq, Except.ok.injEq, false_iff]
            rintro ⟨rfl, _, free⟩
            simp [taken] at free

theorem place_eq_error_iff : (s.place p fresh).1.result = .error failure ↔
    (∃ fault, fresh = .error fault ∧ failure = .fault fault) ∨
    ∃ code, fresh = .ok code ∧ (CodeValue.separator ∈ code ∧ failure = .fault .codeWithSpace ∨
      CodeValue.separator ∉ code ∧ (∃ q, s.outstanding.get? code = some q) ∧
        failure = .fault .duplicateCode) := by
  cases fresh with
  | error fault => simp [place, Report.fail, @eq_comm _ failure]
  | ok drawn =>
      by_cases spaced : CodeValue.separator ∈ drawn
      · simp [place, Report.fail, spaced, @eq_comm _ failure]
      · cases taken : s.outstanding.get? drawn with
        | none => simp [place, spaced, Mapping.contains, taken]
        | some q =>
            simp [place, Report.fail, spaced, Mapping.contains, taken, @eq_comm _ failure]

theorem place_next_of_ok (h : (s.place p fresh).1.result = .ok code) :
    (s.place p fresh).2 = { s with outstanding := s.outstanding.insert code p } := by
  obtain ⟨rfl, clean, free⟩ := place_eq_ok_iff.mp h
  simp [place, clean, Mapping.contains, free]

theorem place_next_of_error (h : (s.place p fresh).1.result = .error failure) :
    (s.place p fresh).2 = s := by
  unfold place at h ⊢
  cases fresh with
  | error fault => rfl
  | ok drawn =>
      simp only at h ⊢
      split
      · rfl
      · split
        · rfl
        · simp_all

theorem issue_of_refused (h : (s.registry.authorize p).result = .error failure) :
    s.issue p = (⟨.error failure, (s.registry.authorize p).log⟩, s) := by
  cases answer : s.registry.authorize p with
  | mk result log =>
      simp only [answer] at h
      subst h
      simp [issue, issueFresh, answer]

theorem issue_of_accepted {binding : Option Binding}
    (h : (s.registry.authorize p).result = .ok binding) :
    s.issue p =
      (({ s with drawn := s.drawn + 1 }.place p (s.source s.drawn)).1.after
          (s.registry.authorize p).log,
        ({ s with drawn := s.drawn + 1 }.place p (s.source s.drawn)).2) := by
  cases answer : s.registry.authorize p with
  | mk result log =>
      simp only [answer] at h
      subst h
      simp [issue, issueFresh, answer]

/-- A code is issued exactly for an accepted request, if the next draw gives a code that is free
of spaces and not outstanding. -/
theorem issue_eq_ok_iff : (s.issue p).1.result = .ok code ↔
    (∃ binding, (s.registry.authorize p).result = .ok binding) ∧ s.source s.drawn = .ok code ∧
      CodeValue.separator ∉ code ∧ s.outstanding.get? code = none := by
  cases accepted : (s.registry.authorize p).result with
  | error failure => simp [issue_of_refused accepted]
  | ok binding => simp [issue_of_accepted accepted, Report.after, place_eq_ok_iff]

theorem issue_eq_error_iff : (s.issue p).1.result = .error failure ↔
    (s.registry.authorize p).result = .error failure ∨
    (∃ binding, (s.registry.authorize p).result = .ok binding) ∧
      ((∃ fault, s.source s.drawn = .error fault ∧ failure = .fault fault) ∨
      ∃ code, s.source s.drawn = .ok code ∧
        (CodeValue.separator ∈ code ∧ failure = .fault .codeWithSpace ∨
        CodeValue.separator ∉ code ∧ (∃ q, s.outstanding.get? code = some q) ∧
          failure = .fault .duplicateCode)) := by
  cases accepted : (s.registry.authorize p).result with
  | error refusal => simp [issue_of_refused accepted]
  | ok binding => simp [issue_of_accepted accepted, Report.after, place_eq_error_iff]

theorem issue_next_of_ok (h : (s.issue p).1.result = .ok code) :
    (s.issue p).2 =
      { s with drawn := s.drawn + 1, outstanding := s.outstanding.insert code p } := by
  obtain ⟨⟨binding, accepted⟩, _⟩ := issue_eq_ok_iff.mp h
  rw [issue_of_accepted accepted] at h ⊢
  exact place_next_of_ok h

theorem issue_next_of_error (h : (s.issue p).1.result = .error failure) :
    (s.issue p).2 = { s with drawn := (s.issue p).2.drawn } := by
  cases accepted : (s.registry.authorize p).result with
  | error failure => rw [issue_of_refused accepted]
  | ok binding =>
      rw [issue_of_accepted accepted] at h ⊢
      dsimp only
      rw [place_next_of_error h]

end Issue

section Consume

theorem consume_of_unknown (unknown : s.outstanding.get? (CodeValue.decode value).1 = none) :
    s.consume value = (⟨.error (.refused .invalidCode), [.unknownCode]⟩, s) := by
  simp [consume, unknown]

theorem consume_of_known (known : s.outstanding.get? (CodeValue.decode value).1 = some stored) :
    s.consume value = (settle s.registry stored (CodeValue.decode value).2,
      { s with outstanding := s.outstanding.erase (CodeValue.decode value).1 }) := by
  simp [consume, known]

theorem consume_eq_ok_iff : (s.consume value).1.result = .ok stored ↔
    s.outstanding.get? (CodeValue.decode value).1 = some stored ∧
      s.registry.Admits stored (CodeValue.decode value).2 := by
  cases known : s.outstanding.get? (CodeValue.decode value).1 with
  | none => simp [consume_of_unknown known]
  | some p =>
      simp only [consume_of_known known, settle_eq_ok_iff, Option.some.injEq]
      constructor
      · rintro ⟨rfl, admitted⟩
        exact ⟨rfl, admitted⟩
      · rintro ⟨rfl, admitted⟩
        exact ⟨rfl, admitted⟩

/-- Whatever the verdict, the presented code is not outstanding afterwards, and all others are as
they were. -/
theorem get?_consume (other : Text) : (s.consume value).2.outstanding.get? other =
    if (CodeValue.decode value).1 = other then none else s.outstanding.get? other := by
  cases known : s.outstanding.get? (CodeValue.decode value).1 with
  | none =>
      rw [consume_of_unknown known]
      split
      · rename_i same
        rw [← same, known]
      · rfl
  | some p => rw [consume_of_known known, Mapping.get?_erase]

/-- A code is gone from a store, and nothing else has changed. -/
structure Burned (s : CodeStore) (code : Text) (next : CodeStore) : Prop where
  rest : next = { s with outstanding := next.outstanding }
  codes : ∀ other, next.outstanding.get? other =
    if code = other then none else s.outstanding.get? other

theorem burned_consume (known : s.outstanding.get? (CodeValue.decode value).1 = some stored) :
    s.Burned (CodeValue.decode value).1 (s.consume value).2 where
  rest := by rw [consume_of_known known]
  codes other := get?_consume other

end Consume

section Step

/-- One call changes what is stored under the code that it touches, and nothing else. -/
theorem get?_perform (s : CodeStore) (call : Call) (other : Text) :
    (s.perform call).2.outstanding.get? other =
      if (s.perform call).1.code? = some other then (s.perform call).1.kept?
      else s.outstanding.get? other := by
  cases call with
  | issue p =>
      cases answer : (s.issue p).1.result with
      | error failure =>
          simp only [perform, Record.code?, answer, Except.toOption, reduceCtorEq, if_false]
          rw [issue_next_of_error answer]
      | ok code =>
          simp only [perform, Record.code?, Record.kept?, answer, Except.toOption,
            Option.some.injEq]
          rw [issue_next_of_ok answer, Mapping.get?_insert]
  | consume value =>
      simp only [perform, Record.code?, Record.kept?, Option.some.injEq]
      exact get?_consume other
  | register registration => rfl

theorem registry_issue (s : CodeStore) (p : Parameters) :
    (s.issue p).2.registry = s.registry := by
  cases answer : (s.issue p).1.result with
  | error failure => rw [issue_next_of_error answer]
  | ok code => rw [issue_next_of_ok answer]

theorem registry_consume (s : CodeStore) (value : Text) :
    (s.consume value).2.registry = s.registry := by
  cases known : s.outstanding.get? (CodeValue.decode value).1 with
  | none => rw [consume_of_unknown known]
  | some p => rw [consume_of_known known]

end Step

section Runs

theorem after_append (s : CodeStore) (first second : List Call) :
    s.after (first ++ second) = (s.after first).after second := by
  induction first generalizing s with
  | nil => rfl
  | cons call more ih => exact ih (s.perform call).2

theorem history_append (s : CodeStore) (first second : List Call) :
    s.history (first ++ second) = s.history first ++ (s.after first).history second := by
  induction first generalizing s with
  | nil => rfl
  | cons call more ih =>
      simp only [List.cons_append, history, after, ih]

theorem after_concat (s : CodeStore) (calls : List Call) (call : Call) :
    s.after (calls ++ [call]) = ((s.after calls).perform call).2 := by
  rw [after_append]
  rfl

theorem history_concat (s : CodeStore) (calls : List Call) (call : Call) :
    s.history (calls ++ [call]) = s.history calls ++ [((s.after calls).perform call).1] := by
  rw [history_append]
  rfl

theorem registry_after {calls : List Call} (s : CodeStore)
    (fixed : ∀ registration, Call.register registration ∉ calls) :
    (s.after calls).registry = s.registry := by
  induction calls generalizing s with
  | nil => rfl
  | cons call more ih =>
      have below : ∀ registration, Call.register registration ∉ more :=
        fun registration member => fixed registration (List.mem_cons_of_mem _ member)
      cases call with
      | issue p => exact (ih (s.issue p).2 below).trans (registry_issue s p)
      | consume value => exact (ih (s.consume value).2 below).trans (registry_consume s value)
      | register registration => exact absurd List.mem_cons_self (fixed registration)

/-- A code that is not presented stays outstanding for the same parameters, since it cannot be
issued again either. -/
theorem get?_after_of_unpresented {calls : List Call}
    (known : s.outstanding.get? code = some stored)
    (unpresented : ∀ value, Call.consume value ∈ calls → (CodeValue.decode value).1 ≠ code) :
    (s.after calls).outstanding.get? code = some stored := by
  induction calls generalizing s with
  | nil => exact known
  | cons call more ih =>
      have untouched : (s.perform call).1.code? ≠ some code := by
        intro touched
        cases call with
        | issue p =>
            have answer : (s.issue p).1.result = .ok code := by
              cases result : (s.issue p).1.result with
              | error failure => simp [perform, Record.code?, result, Except.toOption] at touched
              | ok issued => simpa [perform, Record.code?, result, Except.toOption] using touched
            -- a code that is outstanding is not issued, even if it is drawn
            have free := (issue_eq_ok_iff.mp answer).2.2.2
            simp [free] at known
        | consume value =>
            simp only [perform, Record.code?, Option.some.injEq] at touched
            exact unpresented value List.mem_cons_self touched
        | register registration => simp [perform, Record.code?] at touched
      have kept : (s.perform call).2.outstanding.get? code = some stored := by
        rw [get?_perform, if_neg untouched, known]
      exact ih kept fun value member => unpresented value (List.mem_cons_of_mem call member)

theorem get?_after_of_unissued {calls : List Call} (unknown : s.outstanding.get? code = none)
    (unissued : ∀ p report, Record.issued p report ∈ s.history calls →
      report.result ≠ .ok code) :
    (s.after calls).outstanding.get? code = none := by
  induction calls generalizing s with
  | nil => exact unknown
  | cons call more ih =>
      have still : (s.perform call).2.outstanding.get? code = none := by
        rw [get?_perform]
        split
        · rename_i touched
          cases call with
          | issue p =>
              have refused := unissued p (s.issue p).1 List.mem_cons_self
              cases result : (s.issue p).1.result with
              | error failure => simp [perform, Record.code?, result, Except.toOption] at touched
              | ok issued =>
                  obtain rfl : issued = code := by
                    simpa [perform, Record.code?, result, Except.toOption] using touched
                  exact absurd result refused
          | consume value => rfl
          | register registration => rfl
        · exact unknown
      exact ih still fun p report member => unissued p report (List.mem_cons_of_mem _ member)

end Runs

end ProofKey.CodeStore
