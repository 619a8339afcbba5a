import ProofKey.ErrorRedirect
import ProofKey.Proofs.Error
import ProofKey.Proofs.Query
import ProofKey.Proofs.Uri

/-! # The query of an error redirect

A client reads from the redirect what its own URI had, entry by entry, and behind
that the error and the state. Nothing before the query or behind it is taken for a
part of it. The redirect fails if the client's URI is none, and else only for
surrogates in what is to be written.
-/

namespace ProofKey

namespace OAuthError

variable {e : OAuthError} {redirectUri : Text} {state : Option Text} {uri : Uri}

theorem redirectParameters_eq (e : OAuthError) (state : Option Text) :
    e.redirectParameters state =
      [(Text.ofString "error", e.kind.code),
        (Text.ofString "error_description", e.description)] ++
      state.toList.map (Text.ofString "state", ·) := by
  cases state <;> rfl

theorem scalar_redirectParameters (description : e.description.Scalar)
    (sent : ∀ s, state = some s → s.Scalar) : Query.Scalar (e.redirectParameters state) := by
  rw [redirectParameters_eq]
  intro entry member
  rcases List.mem_append.mp member with fixed | last
  · simp only [List.mem_cons, List.not_mem_nil, or_false] at fixed
    rcases fixed with rfl | rfl
    · exact ⟨Text.scalar_ofString _, e.kind.scalar_code⟩
    · exact ⟨Text.scalar_ofString _, description⟩
  · obtain ⟨s, among, rfl⟩ := List.mem_map.mp last
    exact ⟨Text.scalar_ofString _, sent s (Option.mem_toList.mp among)⟩

section Writing

variable (parsed : Uri.parse redirectUri = .ok uri)

include parsed

theorem redirect_of_scalar
    (scalar : Query.Scalar (e.redirectEntries uri.query state)) :
    e.redirect redirectUri state =
      .ok { uri with query := Query.encode (e.redirectEntries uri.query state) }.render := by
  have clear := Query.surrogates?_eq_none_iff.mpr scalar
  simp only [redirect, parsed, clear]

theorem redirect_of_not_scalar
    (spoilt : ¬Query.Scalar (e.redirectEntries uri.query state)) :
    ∃ run, e.redirect redirectUri state = .error (.surrogates run) := by
  rw [← Query.surrogates?_eq_none_iff, ← ne_eq, Option.ne_none_iff_exists'] at spoilt
  obtain ⟨run, found⟩ := spoilt
  exact ⟨run, by simp only [redirect, parsed, found]⟩

/-- The entries of a URI and those of the error are read from the redirect, from between the first
`?` and the first `#` or the end. -/
theorem redirect_reads
    (scalar : Query.Scalar (e.redirectEntries uri.query state)) :
    ∃ before query after : Text,
      e.redirect redirectUri state = .ok (before ++ CodePoint.ofChar '?' :: (query ++ after)) ∧
      CodePoint.ofChar '?' ∉ before ∧ CodePoint.ofChar '#' ∉ before ∧
      CodePoint.ofChar '#' ∉ query ∧
      (after = [] ∨ ∃ fragment, after = CodePoint.ofChar '#' :: fragment) ∧
      Query.decode query = Query.decode uri.query ++ e.redirectParameters state := by
  obtain ⟨_, rfl⟩ := Uri.parse_eq_ok_iff.mp parsed
  have delimited := Uri.delimited_parts redirectUri
  generalize Uri.parts redirectUri = uri at parsed scalar delimited
  let query := Query.encode (e.redirectEntries uri.query state)
  have nonempty : e.redirectEntries uri.query state ≠ [] := by
    simp [redirectEntries, redirectParameters_eq]
  have marked : Uri.marked '?' query = CodePoint.ofChar '?' :: query :=
    Uri.marked_of_ne_nil '?' (Query.encode_ne_nil nonempty)
  have written : { uri with query := query }.render = uri.schemeText ++ uri.hierText ++
      CodePoint.ofChar '?' :: (query ++ Uri.marked '#' uri.fragment) := by
    simp only [Uri.render, marked, List.append_assoc, List.cons_append]
    rfl
  refine ⟨uri.schemeText ++ uri.hierText, query, Uri.marked '#' uri.fragment, ?_,
    delimited.not_mem_front (.inl rfl), delimited.not_mem_front (.inr rfl),
    Query.not_mem_encode (by decide) (by decide) (by decide), Uri.marked_cases _ _,
    Query.decode_encode scalar⟩
  rw [redirect_of_scalar parsed scalar, written]

end Writing

theorem scalar_entries_iff (description : e.description.Scalar)
    (sent : ∀ s, state = some s → s.Scalar) (query : Text) :
    Query.Scalar (e.redirectEntries query state) ↔ query.Scalar := by
  have added := scalar_redirectParameters description sent
  rw [← Query.scalar_decode_iff, redirectEntries]
  simp only [Query.Scalar, List.forall_mem_append] at added ⊢
  exact and_iff_left added

/-- An error redirect keeps the query of the client's URI. It fails as the URI does, which is if
the authority is not one that a URI can have. Else the redirect has a query, and what is read from
it are the entries of the URI's own query, in their order and as often as they come, and then the
error code, the description, and the state if there is one, even an empty one. -/
theorem redirect_keeps_query (e : OAuthError) (redirectUri : Text) (state : Option Text)
    (uriScalar : redirectUri.Scalar) (descriptionScalar : e.description.Scalar)
    (stateScalar : ∀ s, state = some s → s.Scalar) :
    (∀ failure, e.redirect redirectUri state = .error failure ↔
      ∃ error, failure = .uri error ∧ Uri.parse redirectUri = .error error) ∧
    ((∃ failure, Uri.parse redirectUri = .error failure) ↔
      ¬Uri.SoundAuthority (Uri.parts redirectUri).authority) ∧
    ∀ uri, Uri.parse redirectUri = .ok uri →
      ∃ before query after : Text,
        e.redirect redirectUri state =
          .ok (before ++ CodePoint.ofChar '?' :: (query ++ after)) ∧
        CodePoint.ofChar '?' ∉ before ∧ CodePoint.ofChar '#' ∉ before ∧
        CodePoint.ofChar '#' ∉ query ∧
        (after = [] ∨ ∃ fragment, after = CodePoint.ofChar '#' :: fragment) ∧
        Query.decode query = Query.decode uri.query ++
          ([(Text.ofString "error", e.kind.code),
            (Text.ofString "error_description", e.description)] ++
          state.toList.map (Text.ofString "state", ·)) := by
  have scalar : ∀ uri, Uri.parse redirectUri = .ok uri →
      Query.Scalar (e.redirectEntries uri.query state) := by
    intro uri parsed
    obtain ⟨_, rfl⟩ := Uri.parse_eq_ok_iff.mp parsed
    exact (scalar_entries_iff descriptionScalar stateScalar _).mpr
      (Uri.scalar_query_parts uriScalar)
  refine ⟨fun failure => ?fails, Uri.exists_parse_error_iff, fun uri parsed => ?_⟩
  case fails =>
    cases parsed : Uri.parse redirectUri with
    | error error => simp [redirect, parsed, eq_comm]
    | ok uri => simp [redirect_of_scalar parsed (scalar uri parsed)]
  rw [← redirectParameters_eq]
  exact redirect_reads parsed (scalar uri parsed)

/-- A parameter that comes twice, an escaped mark, an empty state and a `?` in the fragment. -/
theorem redirect_keeps_query_sample :
    let redirectUri : Text := "https://app.example/cb?a=1&a=%26#?x"
    ∃ before query after : Text,
      (OAuthError.mk .general "d").redirect redirectUri (some []) =
        .ok (before ++ CodePoint.ofChar '?' :: (query ++ after)) ∧
      CodePoint.ofChar '?' ∉ before ∧
      Query.decode query = ([("a", "1"), ("a", "&"), ("error", "invalid_request"),
        ("error_description", "d"), ("state", "")] : List (Text × Text)) := by
  intro redirectUri
  obtain ⟨_, _, kept⟩ := redirect_keeps_query ⟨.general, "d"⟩ redirectUri (some [])
    (Text.scalar_ofString _) (Text.scalar_ofString _) (by simp [Text.Scalar])
  obtain ⟨before, query, after, written, first, _, _, _, read⟩ :=
    kept (Uri.parts redirectUri) rfl
  exact ⟨before, query, after, written, first, read.trans (by decide +kernel)⟩

/-- Brackets may come in pairs and a redirect still fail: they have to enclose an address. -/
theorem paired_brackets_can_fail :
    let redirectUri : Text := "https://[bad]/cb?x=1"
    let authority := (Uri.parts redirectUri).authority
    ¬((∃ failure, (OAuthError.mk .general "d").redirect redirectUri none = .error failure) ↔
      ¬(CodePoint.ofChar '[' ∈ authority ↔ CodePoint.ofChar ']' ∈ authority)) := by
  intro redirectUri authority onlyUnpaired
  have fails : (OAuthError.mk .general "d").redirect redirectUri none =
      .error (.uri (.notAnAddress "bad")) := rfl
  have paired : CodePoint.ofChar '[' ∈ authority ↔ CodePoint.ofChar ']' ∈ authority := by decide
  exact onlyUnpaired.mp ⟨_, fails⟩ paired

end OAuthError

end ProofKey
