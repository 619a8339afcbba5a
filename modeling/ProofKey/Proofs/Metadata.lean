import Mathlib.Data.List.Sort
import Mathlib.Tactic.TFAE
import ProofKey.Metadata
import ProofKey.Proofs.Agreement
import ProofKey.Proofs.Registry

/-! # Advertised methods are the accepted ones

The metadata of a server list method ids in the one order that the ids themselves
determine, so neither the order of registration nor a replaced transform shows in
them. A client may rely on the list: the authorization step binds a challenge to
a method exactly if it is listed, and the token step blames the method of a code
exactly if it is not.
-/

namespace ProofKey

namespace Text

variable {ts listed : List Text}

/-- Of all lists with certain texts in them, only the sorted one is strictly increasing. -/
theorem eq_sorted_iff :
    listed = sorted ts ↔ listed.Pairwise (· < ·) ∧ ∀ t, t ∈ listed ↔ t ∈ ts := by
  constructor
  · rintro rfl
    exact ⟨pairwise_sorted ts, fun _ => mem_sorted⟩
  · rintro ⟨increasing, same⟩
    exact increasing.eq_of_mem_iff (pairwise_sorted ts) fun t => (same t).trans mem_sorted.symm

theorem sorted_congr (same : ∀ t, t ∈ listed ↔ t ∈ ts) : sorted listed = sorted ts :=
  eq_sorted_iff.mpr ⟨pairwise_sorted listed, fun t => mem_sorted.trans (same t)⟩

theorem sorted_sorted (ts : List Text) : sorted (sorted ts) = sorted ts :=
  sorted_congr fun _ => mem_sorted

theorem sorted_ne_nil (nonempty : ts ≠ []) : sorted ts ≠ [] := by
  obtain ⟨t, member⟩ := List.exists_mem_of_ne_nil ts nonempty
  exact List.ne_nil_of_mem (mem_sorted.mpr member)

end Text

theorem Wire.texts_text (place : Text) (i : Nat) (items : List Text) :
    texts place i (items.map .text) = .ok items := by
  induction items generalizing i with
  | nil => rfl
  | cons item rest ih => simp [texts, ih, Except.map]

namespace Registry

variable {r : Registry} {methodId challenge presented : Text}

theorem mem_idsInOrder_iff {ts : List Transform} :
    methodId ∈ idsInOrder ts ↔
      methodId = Transform.plainId ∨ ∃ t ∈ ts, t.methodId = methodId := by
  rw [idsInOrder_eq_eraseDups, List.mem_eraseDups]
  simp

/-- Evaluation blames the method of the request. What a transform fails with is its own, whatever
it names. -/
def BlamesMethod (r : Registry) (p : Parameters) (presented : Text) : Prop :=
  ∃ error named, (r.evaluate p (some presented)).result = .error (.refused error) ∧
    error.kind = .unsupportedMethod named ∧ ¬r.TransformFails p presented (.refused error)

theorem authorize_parameters_iff (named : methodId ≠ [])
    (wf : Grammar.wellFormed challenge = true) :
    (r.authorize (Binding.parameters ⟨challenge, methodId⟩)).result =
        .ok (some ⟨challenge, methodId⟩) ↔ r.supports methodId = true := by
  have bound := Binding.challenge?_parameters (b := ⟨challenge, methodId⟩) (ne_nil_of_wellFormed wf)
  have selected := Binding.methodId_parameters (b := ⟨challenge, methodId⟩) named
  rw [authorize_eq_ok_iff, bound, selected]
  simp [wf]

theorem blamesMethod_parameters_iff (named : methodId ≠ []) (used : challenge ≠ [])
    (sent : presented ≠ []) :
    r.BlamesMethod (Binding.parameters ⟨challenge, methodId⟩) presented ↔
      r.supports methodId = false := by
  have bound := Binding.challenge?_parameters (b := ⟨challenge, methodId⟩) used
  have selected := Binding.methodId_parameters (b := ⟨challenge, methodId⟩) named
  have evaluated : r.evaluate (Binding.parameters ⟨challenge, methodId⟩) (some presented) =
      r.check methodId challenge presented := by
    rw [evaluate_of_bound bound (present?_eq_some_iff.mpr ⟨rfl, sent⟩), selected]
  constructor
  · rintro ⟨error, blamed, failed, kind, notOwn⟩
    rw [evaluated] at failed
    obtain ⟨unsupported, _⟩ | ⟨_, _, same⟩ | ⟨_, _, _, same⟩ | ⟨challengeWf, verifierWf, own⟩ :=
      check_error_iff.mp failed
    · exact unsupported
    · simp [Failure.refused.inj same, OAuthError.malformedChallenge] at kind
    · simp [Failure.refused.inj same, OAuthError.malformedVerifier] at kind
    · obtain ⟨transform, held, failed⟩ := own
      have sound : ¬(Binding.parameters ⟨challenge, methodId⟩).MalformedChallenge := by
        simp [Parameters.malformedChallenge_iff bound, challengeWf]
      exact absurd ⟨sound, verifierWf, challenge, transform, bound, selected ▸ held, failed⟩ notOwn
  · intro unsupported
    refine ⟨.methodNotRegistered methodId, some methodId, ?_, rfl, ?_⟩
    · rw [evaluated]
      exact check_error_iff.mpr (.inl ⟨unsupported, rfl⟩)
    · intro own
      obtain ⟨_, transform, _, held, _⟩ := own.failed
      rw [selected] at held
      simp [supports_eq_isSome, held] at unsupported

/-- Whether a method is supported can be found out at either step, and with any challenge and any
verifier. -/
theorem supports_tfae (r : Registry) (named : methodId ≠ []) :
    List.TFAE [r.supports methodId = true,
      ∀ challenge, Grammar.wellFormed challenge = true →
        (r.authorize (Binding.parameters ⟨challenge, methodId⟩)).result =
          .ok (some ⟨challenge, methodId⟩),
      ∃ challenge, Grammar.wellFormed challenge = true ∧
        (r.authorize (Binding.parameters ⟨challenge, methodId⟩)).result =
          .ok (some ⟨challenge, methodId⟩),
      ∀ challenge presented, Grammar.wellFormed challenge = true → presented ≠ [] →
        ¬r.BlamesMethod (Binding.parameters ⟨challenge, methodId⟩) presented,
      ∃ challenge presented, Grammar.wellFormed challenge = true ∧ presented ≠ [] ∧
        ¬r.BlamesMethod (Binding.parameters ⟨challenge, methodId⟩) presented] := by
  have wf : Grammar.wellFormed Challenge.sampleChallenge = true :=
    Challenge.wellFormed_of_s256 Challenge.s256_sampleVerifier
  have used := ne_nil_of_wellFormed wf
  tfae_have 1 → 2 := fun supported challenge wf =>
    (authorize_parameters_iff named wf).mpr supported
  tfae_have 2 → 3 := fun accepted => ⟨Challenge.sampleChallenge, wf, accepted _ wf⟩
  tfae_have 3 → 1 := by
    rintro ⟨challenge, wf, accepted⟩
    exact (authorize_parameters_iff named wf).mp accepted
  tfae_have 1 → 4 := by
    intro supported challenge presented wf sent blamed
    have unsupported :=
      (blamesMethod_parameters_iff named (ne_nil_of_wellFormed wf) sent).mp blamed
    simp [supported] at unsupported
  tfae_have 4 → 5 := fun never => ⟨_, _, wf, used, never _ _ wf used⟩
  tfae_have 5 → 1 := by
    rintro ⟨challenge, presented, wf, sent, notBlamed⟩
    rw [blamesMethod_parameters_iff named (ne_nil_of_wellFormed wf) sent] at notBlamed
    simpa using notBlamed
  tfae_finish

end Registry

namespace Metadata

variable {methods : List Text} {r : Registry}

def fields (m : Metadata) : Wire.Fields := [(methodsName, .list (m.methods.map .text))]

theorem ofMethods_of_ne_nil (nonempty : methods ≠ []) :
    ofMethods methods = .ok ⟨Text.sorted methods⟩ := by
  simp [ofMethods, nonempty]

theorem ofFields_of_texts {sent : Wire.Fields}
    (listed : Wire.field? sent methodsName = some (.list (methods.map .text))) :
    ofFields sent = ofMethods methods := by
  cases methods with
  | nil => simp [ofFields, Wire.someTexts, listed, ofMethods, bind, Except.bind]
  | cons first more =>
      have read : Wire.someTexts sent methodsName = .ok (first :: more) := by
        simp only [Wire.someTexts, listed, List.map_cons]
        exact Wire.texts_text methodsName 0 (first :: more)
      rw [ofFields, read]
      rfl

theorem ofFields_fields (nonempty : methods ≠ []) :
    ofFields (fields ⟨Text.sorted methods⟩) = .ok ⟨Text.sorted methods⟩ := by
  have listed : Wire.field? (fields ⟨Text.sorted methods⟩) methodsName =
      some (.list ((Text.sorted methods).map .text)) := by
    simp [Wire.field?, fields]
  rw [ofFields_of_texts listed, ofMethods_of_ne_nil (Text.sorted_ne_nil nonempty),
    Text.sorted_sorted]

theorem ofRegistry_of_mem (held : methodId ∈ r.ids) :
    ofRegistry r = .ok ⟨Text.sorted r.ids⟩ :=
  ofMethods_of_ne_nil (List.ne_nil_of_mem held)

/-- Whatever is registered, the server has metadata, and they list `plain` and the registered ids in
strictly increasing order; another registry with the same ids has the same metadata. A method is
listed exactly if authorization binds challenges to it, which it does for all well-formed
challenges or for none, and exactly if evaluation does not blame it, again for all challenges and
verifiers or for none. Any list of texts that is not empty is read as the one strictly increasing
list with the same elements, and that list as itself. -/
theorem advertises_accepted_methods :
    (∀ (ts : List Transform) (later : List Registration),
      ∃ start, (Registry.ofTransforms ts).result = .ok start ∧
        let r := later.foldl Registry.register start
        let registered := ts ++ later.map (·.transform)
        ∃ metadata, ofRegistry r = .ok metadata ∧
          metadata.methods.Pairwise (· < ·) ∧
          (∀ id, id ∈ metadata.methods ↔
            id = Transform.plainId ∨ ∃ t ∈ registered, t.methodId = id) ∧
          (∀ other : Registry, (∀ id, id ∈ other.ids ↔ id ∈ r.ids) →
            ofRegistry other = .ok metadata) ∧
          ∀ methodId, methodId ≠ [] → List.TFAE [methodId ∈ metadata.methods,
            ∀ challenge, Grammar.wellFormed challenge = true →
              (r.authorize (Binding.parameters ⟨challenge, methodId⟩)).result =
                .ok (some ⟨challenge, methodId⟩),
            ∃ challenge, Grammar.wellFormed challenge = true ∧
              (r.authorize (Binding.parameters ⟨challenge, methodId⟩)).result =
                .ok (some ⟨challenge, methodId⟩),
            ∀ challenge presented, Grammar.wellFormed challenge = true → presented ≠ [] →
              ¬r.BlamesMethod (Binding.parameters ⟨challenge, methodId⟩) presented,
            ∃ challenge presented, Grammar.wellFormed challenge = true ∧ presented ≠ [] ∧
              ¬r.BlamesMethod (Binding.parameters ⟨challenge, methodId⟩) presented]) ∧
    ∀ sent methods, methods ≠ [] →
      Wire.field? sent methodsName = some (.list (methods.map .text)) →
      ∃ metadata, ofFields sent = .ok metadata ∧
        (∀ listed, listed = metadata.methods ↔
          listed.Pairwise (· < ·) ∧ ∀ method, method ∈ listed ↔ method ∈ methods) ∧
        ofFields metadata.fields = .ok metadata := by
  refine ⟨?registry, ?wire⟩
  case registry =>
    intro ts later
    obtain ⟨first, sameFirst, whole⟩ := Registry.exists_registerAll_eq_foldl .initial ts
    refine ⟨Registry.initial.registerAll ts, rfl, ?_⟩
    intro r registered
    have order : r.ids = Registry.idsInOrder registered := by
      simp only [r, registered, whole, ← List.foldl_append, Registry.ids_foldl_register,
        List.map_append, sameFirst]
    have held : Transform.plainId ∈ r.ids := by
      rw [order]
      exact List.mem_cons_self
    refine ⟨⟨Text.sorted r.ids⟩, ofRegistry_of_mem held, Text.pairwise_sorted r.ids, ?_, ?_, ?_⟩
    · intro id
      rw [Text.mem_sorted, order, Registry.mem_idsInOrder_iff]
    · intro other same
      rw [ofRegistry_of_mem ((same _).mpr held), Text.sorted_congr same]
    · intro methodId named
      have listed : (r.supports methodId = true) = (methodId ∈ Text.sorted r.ids) :=
        propext (Registry.supports_iff_mem_ids.trans Text.mem_sorted.symm)
      exact listed ▸ Registry.supports_tfae r named
  case wire =>
    intro sent methods nonempty listed
    refine ⟨⟨Text.sorted methods⟩, ?_, fun _ => Text.eq_sorted_iff, ofFields_fields nonempty⟩
    rw [ofFields_of_texts listed, ofMethods_of_ne_nil nonempty]

/-- A method can be listed, and bound by authorization, whose own transform blames it. -/
theorem listed_method_blamed :
    let r := Registry.initial.registerAll [.withdrawn "X"]
    (Registry.ofTransforms [.withdrawn "X"]).result = .ok r ∧
      ∃ metadata, ofRegistry r = .ok metadata ∧ Text.ofString "X" ∈ metadata.methods ∧
        ¬(Text.ofString "X" ∈ metadata.methods ↔
          ∀ challenge presented, Grammar.wellFormed challenge = true → presented ≠ [] →
            ∀ error named, error.kind = .unsupportedMethod named →
              (r.evaluate (Binding.parameters ⟨challenge, "X"⟩) (some presented)).result ≠
                .error (.refused error)) := by
  intro r
  have held : Text.ofString "X" ∈ r.ids := by decide
  have listed : Text.ofString "X" ∈ Text.sorted r.ids := Text.mem_sorted.mpr held
  refine ⟨rfl, ⟨Text.sorted r.ids⟩, ofRegistry_of_mem held, listed, fun agree => ?_⟩
  have wf : Grammar.wellFormed Challenge.sampleChallenge = true :=
    Challenge.wellFormed_of_s256 Challenge.s256_sampleVerifier
  exact agree.mp listed Challenge.sampleChallenge Challenge.sampleVerifier wf (by decide)
    (.methodNotRegistered "X") (some "X") rfl rfl

end Metadata

end ProofKey
