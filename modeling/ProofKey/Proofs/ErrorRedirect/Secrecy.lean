import ProofKey.Proofs.ErrorRedirect
import ProofKey.Proofs.Metadata
import ProofKey.Proofs.Secrecy

/-! # What an error redirect tells of a request

The redirect of a refused authorization request says which of the two checks failed
and, if it was that of the method, which methods there are. The error also holds the
method id that was asked for, but what is sent is made without it. So all requests
that fail in the same check are answered in the same words, whatever they brought and
in whichever order the methods were registered.
-/

namespace ProofKey

namespace OAuthError

variable {e other : OAuthError} {offered : List Text} {kind : ErrorKind}

/-- The words for an error at the authorization step, where some ids are on offer. -/
def refusalText (offered : List Text) : ErrorKind → Option Text
  | .invalidChallengeSyntax => some malformedChallenge.description
  | .unsupportedMethod _ =>
      some ("Unsupported code challenge method. Supported: " ++
        List.intercalate (Text.ofString ", ") offered)
  | _ => none

theorem refusalText_bare : refusalText offered kind.bare = refusalText offered kind := by
  cases kind <;> rfl

theorem code_of_refusalText {words : Text} (found : refusalText offered kind = some words) :
    kind.code = "invalid_request" := by
  cases kind with
  | invalidGrant => simp [refusalText] at found
  | _ => rfl

theorem scalar_of_refusalText {words : Text} (found : refusalText offered kind = some words)
    (scalar : ∀ id ∈ offered, id.Scalar) : words.Scalar := by
  cases kind with
  | invalidChallengeSyntax =>
      obtain rfl := Option.some.inj found
      exact scalar_malformedChallenge
  | unsupportedMethod =>
      obtain rfl := Option.some.inj found
      exact (Text.scalar_ofString _).append
        (Text.scalar_intercalate (Text.scalar_ofString _) scalar)
  | _ => simp [refusalText] at found

theorem response_congr (kinds : e.kind.bare = other.kind.bare)
    (here : refusalText offered e.kind = some e.description)
    (there : refusalText offered other.kind = some other.description) :
    e.response = other.response := by
  have codes : e.kind.code = other.kind.code := by
    rw [← e.kind.code_bare, kinds, other.kind.code_bare]
  have words : some e.description = some other.description := by
    rw [← here, ← there, ← refusalText_bare, kinds, refusalText_bare]
  simp only [response, codes, Option.some.inj words]

/-- A redirect is made from the response to an error and from nothing else of it. -/
theorem redirect_congr (same : e.response = other.response) (redirectUri : Text)
    (state : Option Text) : e.redirect redirectUri state = other.redirect redirectUri state := by
  simp only [redirect, redirectEntries, redirectParameters, same]

end OAuthError

namespace Registry

variable {r other : Registry} {p q : Parameters} {failure another : Failure}

theorem refusal_of_authorize (refused : (r.authorize p).result = .error failure) :
    ∃ error, failure = .refused error ∧
      OAuthError.refusalText r.sortedIds error.kind = some error.description := by
  obtain ⟨_, _, ⟨_, rfl⟩ | ⟨_, _, rfl⟩⟩ := authorize_error_iff.mp refused
  · exact ⟨.malformedChallenge, rfl, rfl⟩
  · exact ⟨.methodNotOffered p.methodId r.sortedIds, rfl, rfl⟩

/-- Two refused requests whose errors are of one kind, at registries with the same ids, are sent
back with the same redirect, on every redirect URI and with every state, or with the same failure.
The parameters of the redirect are fixed words for the kind, in which nothing of the request
occurs; where the method was refused they list the ids on offer in strictly increasing order, which
are `plain` and all that was registered, in whichever order. There is a redirect for every URI, as
long as the ids, the state and the query of the URI have no surrogates, and what is read from its
query are the entries of the URI and behind them these parameters. -/
theorem redirect_tells_only_check (sameIds : ∀ id, id ∈ r.ids ↔ id ∈ other.ids)
    (refused : (r.authorize p).result = .error failure)
    (alsoRefused : (other.authorize q).result = .error another)
    (sameKind : failure.bare? = another.bare?) :
    ∃ error otherError, failure = .refused error ∧ another = .refused otherError ∧
      error.response = otherError.response ∧
      (∀ redirectUri state,
        error.redirect redirectUri state = otherError.redirect redirectUri state) ∧
      (∀ state, error.redirectParameters state =
        [(Text.ofString "error", Text.ofString "invalid_request"),
          (Text.ofString "error_description", error.description)] ++
          state.toList.map (Text.ofString "state", ·)) ∧
      (∀ redirectUri uri state, Uri.parse redirectUri = .ok uri → uri.query.Scalar →
        (∀ s, state = some s → s.Scalar) → (∀ id ∈ r.ids, id.Scalar) →
        ∃ before query after : Text,
          error.redirect redirectUri state =
            .ok (before ++ CodePoint.ofChar '?' :: (query ++ after)) ∧
          CodePoint.ofChar '?' ∉ before ∧ CodePoint.ofChar '#' ∉ before ∧
          CodePoint.ofChar '#' ∉ query ∧
          (after = [] ∨ ∃ fragment, after = CodePoint.ofChar '#' :: fragment) ∧
          Query.decode query = Query.decode uri.query ++
            ([(Text.ofString "error", Text.ofString "invalid_request"),
              (Text.ofString "error_description", error.description)] ++
            state.toList.map (Text.ofString "state", ·))) ∧
      ∃ listed : List Text, OAuthError.refusalText listed error.kind = some error.description ∧
        listed.Pairwise (· < ·) ∧ (∀ id, id ∈ listed ↔ id ∈ r.ids) ∧
        ∀ (ts : List Transform) (later : List Registration) (start : Registry),
          (ofTransforms ts).result = .ok start → r = later.foldl register start →
          ∀ id, id ∈ listed ↔ id = Transform.plainId ∨
            ∃ t ∈ ts ++ later.map (·.transform), t.methodId = id := by
  obtain ⟨error, rfl, here⟩ := refusal_of_authorize refused
  obtain ⟨otherError, rfl, there⟩ := refusal_of_authorize alsoRefused
  have kinds : error.kind.bare = otherError.kind.bare := Option.some.inj sameKind
  have oneOrder : other.sortedIds = r.sortedIds := Text.sorted_congr fun id => (sameIds id).symm
  have response := OAuthError.response_congr kinds here (oneOrder ▸ there)
  have words : ∀ state, error.redirectParameters state =
      [(Text.ofString "error", Text.ofString "invalid_request"),
        (Text.ofString "error_description", error.description)] ++
        state.toList.map (Text.ofString "state", ·) := by
    intro state
    rw [OAuthError.redirectParameters_eq, OAuthError.code_of_refusalText here]
  refine ⟨error, otherError, rfl, rfl, response, OAuthError.redirect_congr response, words, ?read,
    r.sortedIds, here, Text.pairwise_sorted r.ids, fun _ => Text.mem_sorted, ?registered⟩
  case read =>
    intro redirectUri uri state parsed queryScalar stateScalar idsScalar
    have described : error.description.Scalar :=
      OAuthError.scalar_of_refusalText here fun id listed =>
        idsScalar id (Text.mem_sorted.mp listed)
    rw [← words]
    exact OAuthError.redirect_reads parsed
      ((OAuthError.scalar_entries_iff described stateScalar uri.query).mpr queryScalar)
  case registered =>
    rintro ts later start made rfl id
    obtain rfl : initial.registerAll ts = start := Except.ok.inj made
    rw [sortedIds, Text.mem_sorted, ids_foldl_registerAll, mem_idsInOrder_iff]

/-- Two methods that are not on offer, at registries that were filled in different orders and with
different transforms. -/
theorem redirect_tells_only_check_sample :
    let own : Transform := { Transform.plain with methodId := "S512" }
    let r := initial.registerAll [own, .s256]
    let other := initial.registerAll [.s256, .plain, { Transform.s256 with methodId := "S512" }]
    let asks (challenge methodId : Text) : Parameters := Mapping.ofList [
      (Parameters.challengeName, some challenge), (Parameters.methodName, some methodId)]
    let redirectUri : Text := "https://app.example/cb?a=1"
    ∃ error otherError,
      (r.authorize (asks Challenge.sampleChallenge "secret")).result = .error (.refused error) ∧
      (other.authorize (asks Challenge.sampleVerifier "none")).result =
        .error (.refused otherError) ∧
      error ≠ otherError ∧
      error.redirect redirectUri (some "s") = otherError.redirect redirectUri (some "s") ∧
      ∃ before query after : Text,
        error.redirect redirectUri (some "s") =
          .ok (before ++ CodePoint.ofChar '?' :: (query ++ after)) ∧
        Query.decode query = ([("a", "1"), ("error", "invalid_request"), ("error_description",
          "Unsupported code challenge method. Supported: S256, S512, plain"),
          ("state", "s")] : List (Text × Text)) := by
  intro own r other asks redirectUri
  have here : r.ids = [Transform.plainId, "S512", Transform.s256Id] := rfl
  have sameIds : ∀ id, id ∈ r.ids ↔ id ∈ other.ids := by
    have there : other.ids = [Transform.plainId, Transform.s256Id, "S512"] := rfl
    intro id
    simp only [here, there, List.mem_cons, List.not_mem_nil, or_false]
    exact or_congr_right or_comm
  have refused : (r.authorize (asks Challenge.sampleChallenge "secret")).result =
      .error (.refused (.methodNotOffered "secret" r.sortedIds)) := rfl
  have alsoRefused : (other.authorize (asks Challenge.sampleVerifier "none")).result =
      .error (.refused (.methodNotOffered "none" other.sortedIds)) := rfl
  have order : r.sortedIds = [Transform.s256Id, "S512", Transform.plainId] := by
    refine (Text.eq_sorted_iff.mpr ⟨by decide, fun id => ?_⟩).symm
    simp only [here, List.mem_cons, List.not_mem_nil, or_false]
    tauto
  obtain ⟨error, otherError, same, alsoSame, _, alike, _, reads, _⟩ :=
    redirect_tells_only_check sameIds refused alsoRefused rfl
  obtain rfl := Failure.refused.inj same
  obtain rfl := Failure.refused.inj alsoSame
  have apart : OAuthError.methodNotOffered "secret" r.sortedIds ≠
      .methodNotOffered "none" other.sortedIds := by
    simp [OAuthError.methodNotOffered, Text.ofString]
  have idsScalar : ∀ id ∈ r.ids, Text.Scalar id := by
    intro id listed
    rw [← Text.mem_sorted, ← sortedIds, order] at listed
    simp only [List.mem_cons, List.not_mem_nil, or_false] at listed
    rcases listed with rfl | rfl | rfl <;> exact Text.scalar_ofString _
  obtain ⟨before, query, after, written, _, _, _, _, read⟩ :=
    reads redirectUri (Uri.parts redirectUri) (some "s") rfl
      (Uri.scalar_query_parts (Text.scalar_ofString _))
      (by simpa using Text.scalar_ofString "s") idsScalar
  refine ⟨_, _, refused, alsoRefused, apart, alike redirectUri (some "s"), before, query, after,
    written, read.trans ?_⟩
  rw [order]
  decide +kernel

end Registry

end ProofKey
