import Mathlib.Data.List.FinRange
import Mathlib.Data.List.Sort
import ProofKey.Proofs.CodeStore.Run

/-! # Requests about different codes are independent

A request concerns at most one code: the one that is drawn for it, or the one that
it presents. It reads and writes what the store has under this code and nothing
else, so what it is answered depends on the earlier requests about the same code
alone. Any reordering that keeps those in their order leaves every answer and the
store at the end as they were.
-/

namespace ProofKey.CodeStore

/-- A request to a code store. An issue comes with what the source of codes answers it. -/
inductive Request where
  | issue (p : Parameters) (fresh : Except Fault Text)
  | consume (value : Text)

/-- What a request is answered, without what is logged on the way. -/
inductive Answer where
  | issued (result : Except Failure Text)
  | redeemed (result : Except Failure Parameters)

/-- The code that a request is about. A request that is refused before a code is drawn is about
none, and so is one for which the draw fails. -/
def Request.code? (r : Registry) : Request → Option Text
  | issue p fresh =>
      match (r.authorize p).result with
      | .ok _ => fresh.toOption
      | .error _ => none
  | consume value => some (CodeValue.decode value).1

def serve (s : CodeStore) : Request → Answer × CodeStore
  | .issue p fresh => (.issued (s.issueFresh p fresh).1.result, (s.issueFresh p fresh).2)
  | .consume value => (.redeemed (s.consume value).1.result, (s.consume value).2)

def served (s : CodeStore) : List Request → CodeStore
  | [] => s
  | q :: more => (s.serve q).2.served more

/-- What some requests are answered, the first one first. -/
def answers (s : CodeStore) : List Request → List Answer
  | [] => []
  | q :: more => (s.serve q).1 :: (s.serve q).2.answers more

/-- The requests of a run: its issues with the draws that are made for them. -/
def requests (s : CodeStore) : List Call → List Request
  | [] => []
  | .issue p :: more => .issue p (s.source s.drawn) :: (s.issue p).2.requests more
  | .consume value :: more => .consume value :: (s.consume value).2.requests more
  | .register registration :: more => (s.register registration).2.requests more

def Record.answer? : Record → Option Answer
  | issued _ report => some (.issued report.result)
  | consumed _ report => some (.redeemed report.result)
  | registered _ _ => none

variable {s t : CodeStore} {r : Registry} {p : Parameters} {q : Request} {code other : Text}
  {first second : List Request}

section Serving

/-- Two stores have the same registry, and the same under one code. -/
structure Alike (code : Text) (s t : CodeStore) : Prop where
  registry : s.registry = t.registry
  stored : s.outstanding.get? code = t.outstanding.get? code

theorem issueFresh_of_refused {fresh : Except Fault Text} {failure : Failure}
    (refused : (s.registry.authorize p).result = .error failure) :
    (s.issueFresh p fresh).1.result = .error failure ∧ (s.issueFresh p fresh).2 = s := by
  unfold issueFresh
  split
  · simp_all
  · simp_all

theorem issueFresh_of_accepted {fresh : Except Fault Text} {binding : Option Binding}
    (accepted : (s.registry.authorize p).result = .ok binding) :
    (s.issueFresh p fresh).1.result = (s.place p fresh).1.result ∧
      (s.issueFresh p fresh).2 = (s.place p fresh).2 := by
  unfold issueFresh
  split
  · simp_all
  · exact ⟨rfl, rfl⟩

theorem registry_place (s : CodeStore) (p : Parameters) (fresh : Except Fault Text) :
    (s.place p fresh).2.registry = s.registry := by
  cases answer : (s.place p fresh).1.result with
  | error failure => rw [place_next_of_error answer]
  | ok code => rw [place_next_of_ok answer]

theorem place_result (s : CodeStore) (p : Parameters) (code : Text) :
    (s.place p (.ok code)).1.result =
      if CodeValue.separator ∈ code then .error (.fault .codeWithSpace)
      else if (s.outstanding.get? code).isSome then .error (.fault .duplicateCode)
      else .ok code := by
  by_cases spaced : CodeValue.separator ∈ code
  · simp [place, spaced, Report.fail]
  · cases taken : s.outstanding.get? code with
    | none => simp [place, spaced, Mapping.contains, taken]
    | some stored => simp [place, spaced, Mapping.contains, taken, Report.fail]

theorem get?_place (s : CodeStore) (p : Parameters) (code other : Text) :
    (s.place p (.ok code)).2.outstanding.get? other =
      if code = other ∧ (s.place p (.ok code)).1.result = .ok code then some p
      else s.outstanding.get? other := by
  cases answer : (s.place p (.ok code)).1.result with
  | error failure => simp [place_next_of_error answer]
  | ok placed =>
      obtain rfl : code = placed := Except.ok.inj (place_eq_ok_iff.mp answer).1
      simp [place_next_of_ok answer, Mapping.get?_insert]

theorem registry_serve (s : CodeStore) (q : Request) : (s.serve q).2.registry = s.registry := by
  cases q with
  | issue p fresh =>
      cases checked : (s.registry.authorize p).result with
      | error failure => exact congrArg registry (issueFresh_of_refused checked).2
      | ok binding =>
          exact (congrArg registry (issueFresh_of_accepted checked).2).trans
            (registry_place s p fresh)
  | consume value => exact registry_consume s value

/-- A request leaves what is stored under other codes. -/
theorem get?_serve_of_unconcerned (unconcerned : q.code? s.registry ≠ some other) :
    (s.serve q).2.outstanding.get? other = s.outstanding.get? other := by
  cases q with
  | issue p fresh =>
      cases checked : (s.registry.authorize p).result with
      | error failure => exact congrArg (·.outstanding.get? other) (issueFresh_of_refused checked).2
      | ok binding =>
          simp only [serve, (issueFresh_of_accepted checked).2]
          cases fresh with
          | error fault => rfl
          | ok code =>
              have apart : code ≠ other := by
                simpa [Request.code?, checked, Except.toOption] using unconcerned
              rw [get?_place, if_neg fun both => apart both.1]
  | consume value =>
      have apart : (CodeValue.decode value).1 ≠ other := by
        simpa [Request.code?] using unconcerned
      rw [serve, get?_consume, if_neg apart]

/-- What a request is answered depends on what is stored under its own code alone. -/
theorem serve_of_alike (registry : s.registry = t.registry)
    (alike : ∀ code, q.code? s.registry = some code →
      s.outstanding.get? code = t.outstanding.get? code) :
    (s.serve q).1 = (t.serve q).1 := by
  cases q with
  | issue p fresh =>
      simp only [serve, Answer.issued.injEq]
      cases checked : (s.registry.authorize p).result with
      | error failure =>
          rw [(issueFresh_of_refused checked).1,
            (issueFresh_of_refused (registry ▸ checked)).1]
      | ok binding =>
          rw [(issueFresh_of_accepted checked).1,
            (issueFresh_of_accepted (registry ▸ checked)).1]
          cases fresh with
          | error fault => rfl
          | ok code =>
              have same : s.outstanding.get? code = t.outstanding.get? code :=
                alike code (by simp [Request.code?, checked, Except.toOption])
              rw [place_result, place_result, same]
  | consume value =>
      simp only [serve, Answer.redeemed.injEq]
      have same := alike _ rfl
      cases known : s.outstanding.get? (CodeValue.decode value).1 with
      | none => rw [consume_of_unknown known, consume_of_unknown (same ▸ known)]
      | some p => rw [consume_of_known known, consume_of_known (same ▸ known), registry]

theorem code?_issue_eq_some_iff {fresh : Except Fault Text} :
    (Request.issue p fresh).code? r = some code ↔
      (∃ binding, (r.authorize p).result = .ok binding) ∧ fresh = .ok code := by
  cases checked : (r.authorize p).result with
  | error failure => simp [Request.code?, checked]
  | ok binding => cases fresh <;> simp [Request.code?, checked, Except.toOption]

theorem get?_serve_of_concerned (registry : s.registry = t.registry)
    (stored : s.outstanding.get? code = t.outstanding.get? code)
    (concerned : q.code? s.registry = some code) :
    (s.serve q).2.outstanding.get? code = (t.serve q).2.outstanding.get? code := by
  cases q with
  | issue p fresh =>
      obtain ⟨⟨binding, checked⟩, rfl⟩ := code?_issue_eq_some_iff.mp concerned
      simp only [serve, (issueFresh_of_accepted checked).2,
        (issueFresh_of_accepted (registry ▸ checked)).2, get?_place, place_result, stored]
  | consume value =>
      have presented : (CodeValue.decode value).1 = code := Option.some.inj concerned
      simp only [serve, get?_consume, presented, if_true]

/-- Two stores that look alike under a code do so after any request, whether it concerns the code
or not. -/
theorem Alike.serve (alike : Alike code s t) (q : Request) :
    Alike code (s.serve q).2 (t.serve q).2 where
  registry := by rw [registry_serve, registry_serve, alike.registry]
  stored := by
    by_cases concerned : q.code? s.registry = some code
    · exact get?_serve_of_concerned alike.registry alike.stored concerned
    · rw [get?_serve_of_unconcerned concerned,
        get?_serve_of_unconcerned (alike.registry ▸ concerned), alike.stored]

end Serving

section Runs

theorem registry_served (s : CodeStore) (requests : List Request) :
    (s.served requests).registry = s.registry := by
  induction requests generalizing s with
  | nil => rfl
  | cons q more ih => exact (ih (s.serve q).2).trans (registry_serve s q)

theorem Alike.served (alike : Alike code s t) (requests : List Request) :
    Alike code (s.served requests) (t.served requests) := by
  induction requests generalizing s t with
  | nil => exact alike
  | cons q more ih => exact ih (alike.serve q)

def concerning (r : Registry) (code : Text) (requests : List Request) : List Request :=
  requests.filter fun q => q.code? r = some code

/-- What a run leaves under a code is what the requests about this code leave there. -/
theorem alike_served_concerning (same : s.registry = r) (code : Text) (requests : List Request) :
    Alike code (s.served requests) (s.served (concerning r code requests)) := by
  induction requests generalizing s with
  | nil => exact ⟨rfl, rfl⟩
  | cons q more ih =>
      have next : (s.serve q).2.registry = r := (registry_serve s q).trans same
      by_cases concerned : q.code? r = some code
      · have kept : concerning r code (q :: more) = q :: concerning r code more :=
          List.filter_cons_of_pos (by simpa using concerned)
        rw [kept]
        exact ih next
      · have dropped : concerning r code (q :: more) = concerning r code more :=
          List.filter_cons_of_neg (by simpa using concerned)
        have passed : Alike code (s.serve q).2 s :=
          ⟨registry_serve s q, get?_serve_of_unconcerned (same ▸ concerned)⟩
        have rest := passed.served (concerning r code more)
        have run := ih next
        rw [dropped]
        exact ⟨run.registry.trans rest.registry, run.stored.trans rest.stored⟩

theorem getElem?_answers (s : CodeStore) (requests : List Request) (i : Nat) :
    (s.answers requests)[i]? =
      requests[i]?.map fun q => ((s.served (requests.take i)).serve q).1 := by
  induction requests generalizing s i with
  | nil => rfl
  | cons q more ih =>
      cases i with
      | zero => rfl
      | succ i => simpa [answers, served] using ih (s.serve q).2 i

theorem exists_issue_eq_issueFresh (s : CodeStore) (p : Parameters) :
    ∃ drawn, s.issue p = { s with drawn := drawn }.issueFresh p (s.source s.drawn) := by
  unfold issue
  split
  · exact ⟨s.drawn, rfl⟩
  · exact ⟨s.drawn + 1, rfl⟩

theorem serve_issue (alike : ∀ code, Alike code s t) (p : Parameters) :
    (t.serve (.issue p (s.source s.drawn))).1 = .issued (s.issue p).1.result ∧
      ∀ code, Alike code (s.issue p).2 (t.serve (.issue p (s.source s.drawn))).2 := by
  obtain ⟨drawn, issued⟩ := exists_issue_eq_issueFresh s p
  -- the number of draws makes no difference to a request that carries its draw
  have drawnAlike (code : Text) : Alike code { s with drawn := drawn } t :=
    ⟨(alike code).registry, (alike code).stored⟩
  have answer := serve_of_alike (q := .issue p (s.source s.drawn)) (drawnAlike []).registry
    fun code _ => (drawnAlike code).stored
  rw [issued]
  exact ⟨answer.symm, fun code => (drawnAlike code).serve (.issue p (s.source s.drawn))⟩

/-- The issues and redemptions of a run are answered as the requests of the run are, and leave the
same codes. -/
theorem answers_requests (alike : ∀ code, Alike code s t) {calls : List Call}
    (fixed : ∀ registration, Call.register registration ∉ calls) :
    (s.history calls).filterMap Record.answer? = t.answers (s.requests calls) ∧
      ∀ code, (s.after calls).outstanding.get? code =
        (t.served (s.requests calls)).outstanding.get? code := by
  induction calls generalizing s t with
  | nil => exact ⟨rfl, fun code => (alike code).stored⟩
  | cons call more ih =>
      have below : ∀ registration, Call.register registration ∉ more :=
        fun registration member => fixed registration (List.mem_cons_of_mem _ member)
      cases call with
      | issue p =>
          obtain ⟨answer, next⟩ := serve_issue alike p
          obtain ⟨rest, kept⟩ := ih next below
          refine ⟨?_, kept⟩
          simp only [history, perform, List.filterMap_cons, Record.answer?, requests, answers,
            answer, rest]
      | consume value =>
          have answer := serve_of_alike (q := .consume value) (alike []).registry
            fun code _ => (alike code).stored
          obtain ⟨rest, kept⟩ := ih (fun code => (alike code).serve (.consume value)) below
          exact ⟨congrArg₂ List.cons answer rest, kept⟩
      | register registration => exact absurd List.mem_cons_self (fixed registration)

end Runs

section Reorderings

/-- Another order of some requests: each request gets another place, and two requests about the
same code keep their order. -/
structure Reordering (r : Registry) (first second : List Request) where
  place : Fin first.length ≃ Fin second.length
  same : ∀ i, second[place i] = first[i]
  keeps : ∀ i j, i < j → first[i].code? r ≠ none → first[i].code? r = first[j].code? r →
    place i < place j

theorem Reordering.place_lt (reordering : Reordering r first second) {i j : Fin first.length}
    (earlier : i < j) (iConcerned : first[i].code? r = some code)
    (jConcerned : first[j].code? r = some code) : reordering.place i < reordering.place j :=
  reordering.keeps i j earlier (ne_of_eq_of_ne iConcerned (Option.some_ne_none code))
    (iConcerned.trans jConcerned.symm)

theorem filter_take_eq_map {α : Type} (list : List α) (n : Nat) (keep : α → Bool) :
    (list.take n).filter keep =
      ((List.finRange list.length).filter fun i : Fin list.length =>
        i.val < n && keep list[i]).map list.get := by
  induction list generalizing n with
  | nil => simp
  | cons a rest ih =>
      cases n with
      | zero => simp
      | succ n =>
          have later : ((List.finRange rest.length).map Fin.succ).filter
              (fun i : Fin (a :: rest).length => i.val < n + 1 && keep (a :: rest)[i]) =
                ((List.finRange rest.length).filter fun i : Fin rest.length =>
                  i.val < n && keep rest[i]).map Fin.succ := by
            simp [List.filter_map, Function.comp_def]
          have positions : List.finRange (a :: rest).length =
              0 :: (List.finRange rest.length).map Fin.succ := List.finRange_succ
          rw [List.take_succ_cons, positions]
          by_cases kept : keep a = true
          · rw [List.filter_cons_of_pos kept, List.filter_cons_of_pos (by simpa using kept), later,
              ih]
            simp [Function.comp_def]
          · rw [List.filter_cons_of_neg kept, List.filter_cons_of_neg (by simpa using kept), later,
              ih]
            simp [Function.comp_def]

namespace Reordering

theorem place_lt_iff (reordering : Reordering r first second) {i j : Fin first.length}
    (iConcerned : first[i].code? r = some code) (jConcerned : first[j].code? r = some code) :
    reordering.place i < reordering.place j ↔ i < j := by
  rcases lt_trichotomy i j with before | same | behind
  · exact iff_of_true (reordering.place_lt before iConcerned jConcerned) before
  · simp [same]
  · have swapped := reordering.place_lt behind jConcerned iConcerned
    exact iff_of_false swapped.asymm behind.asymm

/-- Where the beginnings of both orders hold the same requests about a code, they hold them in the
same order. -/
theorem concerning_take (reordering : Reordering r first second) {m n : Nat}
    (within : ∀ i : Fin first.length, first[i].code? r = some code →
      ((reordering.place i).val < n ↔ i.val < m)) :
    concerning r code (second.take n) = concerning r code (first.take m) := by
  have places :
      ((List.finRange first.length).filter fun i : Fin first.length =>
        i.val < m && decide (first[i].code? r = some code)).map reordering.place =
      (List.finRange second.length).filter fun k : Fin second.length =>
        k.val < n && decide (second[k].code? r = some code) := by
    refine List.Pairwise.eq_of_mem_iff (r := (· < ·)) ?_ ?_ ?_
    · rw [List.pairwise_map, List.pairwise_filter]
      refine (List.pairwise_lt_finRange first.length).imp ?_
      intro i j earlier iKept jKept
      simp only [Bool.and_eq_true, decide_eq_true_eq] at iKept jKept
      exact reordering.place_lt earlier iKept.2 jKept.2
    · exact (List.pairwise_lt_finRange second.length).filter _
    · intro k
      obtain ⟨i, rfl⟩ := reordering.place.surjective k
      have moved : second[reordering.place i].code? r = first[i].code? r := by
        rw [reordering.same]
      simp only [List.mem_map, List.mem_filter, List.mem_finRange, true_and, Bool.and_eq_true,
        decide_eq_true_eq, reordering.place.injective.eq_iff, exists_eq_right, moved]
      exact and_congr_left fun concerned => (within i concerned).symm
  have moved : second.get ∘ reordering.place = first.get := funext reordering.same
  rw [concerning, concerning, filter_take_eq_map, filter_take_eq_map, ← places, List.map_map, moved]

theorem concerning_eq (reordering : Reordering r first second) (code : Text) :
    concerning r code second = concerning r code first := by
  have within : ∀ i : Fin first.length, first[i].code? r = some code →
      ((reordering.place i).val < second.length ↔ i.val < first.length) :=
    fun i _ => iff_of_true (reordering.place i).isLt i.isLt
  simpa using reordering.concerning_take within

end Reordering

/-- Requests about different codes do not get into each other's way. Let some requests come in
another order that keeps the order of those about the same code. Then each of them is answered as
before, with the same value or the same failure, and the store has the same codes at the end, with
the same parameters. Runs are such requests: a store that holds the same, whatever its source of
codes, answers its issues and redemptions as the requests are answered that carry its draws. -/
theorem reordered_requests_agree (s : CodeStore) {first second : List Request}
    (reordering : Reordering s.registry first second) :
    (∀ i, ∃ answer, (s.answers first)[i.val]? = some answer ∧
      (s.answers second)[(reordering.place i).val]? = some answer) ∧
    (∀ code, (s.served second).outstanding.get? code =
      (s.served first).outstanding.get? code) ∧
    ∀ t calls, (∀ code, Alike code t s) → (∀ registration, Call.register registration ∉ calls) →
      (t.history calls).filterMap Record.answer? = s.answers (t.requests calls) ∧
      ∀ code, (t.after calls).outstanding.get? code =
        (s.served (t.requests calls)).outstanding.get? code := by
  refine ⟨?answers, ?outstanding, ?runs⟩
  case answers =>
    intro i
    refine ⟨((s.served (first.take i)).serve first[i]).1, ?_, ?_⟩
    · simp [getElem?_answers]
    · have moved : second[(reordering.place i).val]? = some first[i] := by
        rw [List.getElem?_eq_getElem (reordering.place i).isLt]
        exact congrArg some (reordering.same i)
      rw [getElem?_answers, moved, Option.map_some]
      refine congrArg some (serve_of_alike ?_ ?_)
      · rw [registry_served, registry_served]
      · intro code concerned
        rw [registry_served] at concerned
        have before : concerning s.registry code (second.take (reordering.place i)) =
            concerning s.registry code (first.take i) :=
          reordering.concerning_take fun j also => reordering.place_lt_iff also concerned
        rw [(alike_served_concerning rfl code (second.take (reordering.place i))).stored, before,
          (alike_served_concerning rfl code (first.take i)).stored]
  case outstanding =>
    intro code
    rw [(alike_served_concerning rfl code second).stored, reordering.concerning_eq,
      (alike_served_concerning rfl code first).stored]
  case runs =>
    intro t calls alike fixed
    exact answers_requests alike fixed

/-- A code is drawn a second time while it is outstanding. The refusal stays a refusal when the
requests about another code come first. -/
theorem reordered_requests_agree_sample :
    let s := empty Registry.initial fun _ => .ok []
    let p : Parameters := Mapping.ofList [(Parameters.challengeName, some Challenge.sampleVerifier)]
    let first : List Request := [.issue p (.ok "a"), .issue Mapping.empty (.ok "a"),
      .issue Mapping.empty (.ok "b"), .consume "b"]
    let second : List Request := [.issue Mapping.empty (.ok "b"), .consume "b",
      .issue p (.ok "a"), .issue Mapping.empty (.ok "a")]
    let refused := Answer.issued (.error (.fault .duplicateCode))
    (s.answers first)[1]? = some refused ∧ (s.answers second)[3]? = some refused ∧
      (s.served second).outstanding.get? "a" = some p := by
  intro s p first second refused
  have back : ∀ i : Fin 4, i + 2 + 2 = i := by decide
  let place : Fin 4 ≃ Fin 4 := ⟨(· + 2), (· + 2), back, back⟩
  have same : ∀ i : Fin 4, second.get (place i) = first.get i := by
    intro i
    match i with
    | 0 | 1 | 2 | 3 => rfl
  have keeps : ∀ i j : Fin 4, i < j → (first.get i).code? s.registry ≠ none →
      (first.get i).code? s.registry = (first.get j).code? s.registry → i + 2 < j + 2 := by
    decide +kernel
  let reordering : Reordering s.registry first second := ⟨place, same, keeps⟩
  obtain ⟨answers, outstanding, _⟩ := reordered_requests_agree s reordering
  obtain ⟨answer, before, after⟩ := answers (1 : Fin 4)
  have answered : some answer = some refused := before.symm
  exact ⟨rfl, after.trans answered, outstanding "a"⟩

end Reorderings

end ProofKey.CodeStore
