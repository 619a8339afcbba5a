import Mathlib.Data.Set.Card
import ProofKey.Proofs.CodeStore.Run

/-! # A code store is determined by its history

Whether a code is outstanding, and for which parameters, follows from the last
call that touched it: an issue that returned the code, or a redemption that
presented it. A redemption takes its code out whatever the verdict, so between
two redemptions of one code that go through there is another issue of it.
-/

namespace ProofKey.CodeStore

def LastTouch (records : List Record) (code : Text) (record : Record) : Prop :=
  record.code? = some code ∧
    ∃ before later, records = before ++ record :: later ∧ ∀ r ∈ later, r.code? ≠ some code

/-- The last call that touched a code issued it, for these parameters. -/
def IssuedLast (records : List Record) (code : Text) (p : Parameters) : Prop :=
  ∃ log, LastTouch records code (.issued p ⟨.ok code, log⟩)

section Records

variable {records first second : List Record} {record last : Record} {code : Text}
  {p : Parameters}

theorem lastTouch_concat_of_touched (touched : last.code? = some code) :
    LastTouch (records ++ [last]) code record ↔ record = last := by
  constructor
  · rintro ⟨_, before, later, split, untouched⟩
    rcases List.eq_nil_or_concat later with rfl | ⟨init, final, rfl⟩
    · exact (List.append_inj' split rfl).2 |> List.singleton_inj.mp |>.symm
    · rw [List.concat_eq_append, ← List.cons_append, ← List.append_assoc] at split
      have same : last = final := List.singleton_inj.mp (List.append_inj' split rfl).2
      exact absurd touched (untouched last (by simp [same]))
  · rintro rfl
    exact ⟨touched, records, [], rfl, by simp⟩

theorem lastTouch_concat_of_untouched (untouched : last.code? ≠ some code) :
    LastTouch (records ++ [last]) code record ↔ LastTouch records code record := by
  constructor
  · rintro ⟨touched, before, later, split, after⟩
    rcases List.eq_nil_or_concat later with rfl | ⟨init, final, rfl⟩
    · have same : last = record := List.singleton_inj.mp (List.append_inj' split rfl).2
      exact absurd touched (same ▸ untouched)
    · rw [List.concat_eq_append, ← List.cons_append, ← List.append_assoc] at split
      exact ⟨touched, before, init, (List.append_inj' split rfl).1,
        fun r member => after r (by simp [member])⟩
  · rintro ⟨touched, before, later, rfl, after⟩
    refine ⟨touched, before, later ++ [last], by simp, ?_⟩
    intro r member
    rcases List.mem_append.mp member with member | member
    · exact after r member
    · exact List.mem_singleton.mp member ▸ untouched

theorem LastTouch.mem_of_touched (h : LastTouch (first ++ second) code record)
    (touched : ∃ r ∈ second, r.code? = some code) : record ∈ second := by
  obtain ⟨_, before, later, split, untouched⟩ := h
  rcases List.append_eq_append_iff.mp split with ⟨common, _, rest⟩ | ⟨common, _, rest⟩
  · simp [rest]
  · cases common with
    | nil =>
        rw [List.nil_append] at rest
        simp [← rest]
    | cons head tail =>
        obtain ⟨_, rfl⟩ := List.cons.inj rest
        obtain ⟨r, member, touches⟩ := touched
        exact absurd touches (untouched r (List.mem_append_right tail member))

theorem kept?_eq_some_iff (touched : record.code? = some code) :
    record.kept? = some p ↔ ∃ log, record = .issued p ⟨.ok code, log⟩ := by
  cases record with
  | issued q report =>
      obtain ⟨result, log⟩ := report
      cases result with
      | error failure => simp [Record.code?, Except.toOption] at touched
      | ok issuedCode =>
          have same : issuedCode = code := by simpa [Record.code?, Except.toOption] using touched
          subst same
          simp [Record.kept?]
  | consumed value report => simp [Record.kept?]
  | registered registration report => simp [Record.kept?]

end Records

section Run

variable {code : Text} {p : Parameters}

/-- What is stored under a code is what the last call that touched the code issued it for. -/
theorem get?_after_iff (r : Registry) (source : Nat → Except Fault Text) (calls : List Call) :
    ((empty r source).after calls).outstanding.get? code = some p ↔
      IssuedLast ((empty r source).history calls) code p := by
  -- from the last call backwards, since that call alone decides about the code that it touches
  induction calls using List.reverseRecOn with
  | nil => simp [after, history, empty, Mapping.get?_empty, IssuedLast, LastTouch]
  | append_singleton calls call ih =>
      rw [after_concat, history_concat, get?_perform]
      by_cases touched : (((empty r source).after calls).perform call).1.code? = some code
      · rw [if_pos touched, kept?_eq_some_iff touched]
        simp only [IssuedLast, lastTouch_concat_of_touched touched, eq_comm]
      · rw [if_neg touched, ih]
        simp only [IssuedLast, lastTouch_concat_of_untouched touched]

theorem clean_of_outstanding (r : Registry) (source : Nat → Except Fault Text)
    (calls : List Call)
    (outstanding : ((empty r source).after calls).outstanding.get? code = some p) :
    CodeValue.separator ∉ code := by
  induction calls using List.reverseRecOn generalizing code p with
  | nil => simp [after, empty, Mapping.get?_empty] at outstanding
  | append_singleton calls call ih =>
      rw [after_concat, get?_perform] at outstanding
      split at outstanding
      · rename_i touched
        obtain ⟨log, issued⟩ := (kept?_eq_some_iff touched).mp outstanding
        cases call with
        | issue q =>
            simp only [perform, Record.issued.injEq] at issued
            have answer : (((empty r source).after calls).issue q).1.result = .ok code := by
              rw [issued.2]
            exact (issue_eq_ok_iff.mp answer).2.2.1
        | consume value => simp [perform] at issued
        | register registration => simp [perform] at issued
      · exact ih outstanding

theorem encard_outstanding (s : CodeStore) :
    {code | ∃ p, s.outstanding.get? code = some p}.encard = s.size := by
  have keys : {code | ∃ p, s.outstanding.get? code = some p} = ↑s.outstanding.keys.toFinset := by
    ext code
    simp [Mapping.mem_keys_iff]
  have distinct : s.outstanding.keys.Nodup := s.outstanding.nodup
  rw [keys, Set.encard_coe_eq_coe_finsetCard, List.toFinset_card_of_nodup distinct]
  simp [Mapping.keys, size, Mapping.size]

theorem issued_between (r : Registry) (source : Nat → Except Fault Text)
    {before between : List Call} {first last : Text}
    (same : (CodeValue.decode first).1 = (CodeValue.decode last).1)
    (redeemed :
      (((empty r source).after (before ++ .consume first :: between)).consume last).1.result =
        .ok p) :
    ∃ log, .issued p ⟨.ok (CodeValue.decode last).1, log⟩ ∈
      ((empty r source).after (before ++ [.consume first])).history between := by
  obtain ⟨known, _⟩ := consume_eq_ok_iff.mp redeemed
  obtain ⟨log, issuedLast⟩ := (get?_after_iff r source _).mp known
  rw [history_append] at issuedLast
  have presented := issuedLast.mem_of_touched
    ⟨_, List.mem_cons_self, by simp [perform, Record.code?, same]⟩
  refine ⟨log, ?_⟩
  rw [after_append]
  simpa [history, perform, after] using presented

/-- The codes of a store that started empty follow from the history of its calls. The last call
that touched a code decides whether it is outstanding and for what; the size counts these codes,
and none has a space. The next issue gives the next draw, if the request passes the check and the
draw is a code without a space that is not outstanding. Otherwise it fails with what is the first
of these to go wrong, and changes nothing but the number of draws. A redemption takes out the code
that it presents and no other, and answers what the code was last issued for; one code goes through
twice only if it is issued again in between. -/
theorem history_determines_codes (r : Registry) (source : Nat → Except Fault Text)
    (calls : List Call) :
    let records := (empty r source).history calls
    let s := (empty r source).after calls
    (∀ code p, s.outstanding.get? code = some p ↔ IssuedLast records code p) ∧
    {code | ∃ p, IssuedLast records code p}.encard = s.size ∧
    (∀ code p, IssuedLast records code p → CodeValue.separator ∉ code) ∧
    (∀ p code, (s.issue p).1.result = .ok code ↔
      (∃ binding, (s.registry.authorize p).result = .ok binding) ∧ s.source s.drawn = .ok code ∧
        CodeValue.separator ∉ code ∧ ∀ q, ¬IssuedLast records code q) ∧
    (∀ p failure, (s.issue p).1.result = .error failure ↔
      (s.registry.authorize p).result = .error failure ∨
      (∃ binding, (s.registry.authorize p).result = .ok binding) ∧
        ((∃ fault, s.source s.drawn = .error fault ∧ failure = .fault fault) ∨
        ∃ code, s.source s.drawn = .ok code ∧
          (CodeValue.separator ∈ code ∧ failure = .fault .codeWithSpace ∨
          CodeValue.separator ∉ code ∧ (∃ q, IssuedLast records code q) ∧
            failure = .fault .duplicateCode))) ∧
    (∀ p failure, (s.issue p).1.result = .error failure →
      (s.issue p).2 = { s with drawn := (s.issue p).2.drawn }) ∧
    (∀ value p, s.outstanding.get? (CodeValue.decode value).1 = some p →
      s.Burned (CodeValue.decode value).1 (s.consume value).2) ∧
    (∀ value p, (s.consume value).1.result = .ok p →
      IssuedLast records (CodeValue.decode value).1 p) ∧
    (∀ before first between last p, calls = before ++ .consume first :: between →
      (CodeValue.decode first).1 = (CodeValue.decode last).1 →
      (s.consume last).1.result = .ok p →
      ∃ log, .issued p ⟨.ok (CodeValue.decode last).1, log⟩ ∈
        ((empty r source).after (before ++ [.consume first])).history between) := by
  intro records s
  have follows : ∀ code p, s.outstanding.get? code = some p ↔ IssuedLast records code p :=
    fun code p => get?_after_iff r source calls
  refine ⟨follows, ?size, ?clean, ?issued, ?failed, ?refused, ?removed, ?answered, ?again⟩
  case size => simpa only [follows] using encard_outstanding s
  case clean =>
    intro code p issued
    exact clean_of_outstanding r source calls ((follows code p).mpr issued)
  case issued =>
    intro p code
    simp only [issue_eq_ok_iff, ← follows, Option.eq_none_iff_forall_ne_some]
  case failed =>
    intro p failure
    simp only [issue_eq_error_iff, ← follows]
  case refused =>
    intro p failure answer
    exact issue_next_of_error answer
  case removed =>
    intro value p known
    exact burned_consume known
  case answered =>
    intro value p answer
    exact (follows _ p).mp (consume_eq_ok_iff.mp answer).1
  case again =>
    rintro before first between last p rfl same redeemed
    exact issued_between r source same redeemed

end Run

end ProofKey.CodeStore
