import ProofKey.Proofs.ErrorRedirect
import ProofKey.Proofs.Uri.RoundTrip

/-! # Where an error redirect goes

The redirect changes the query of a URI and should change nothing else. It does not if
the URI has an authority. Without one, the URI is written such that a path for which
the scheme asks for an authority gets a slash, and a path that starts with two slashes
is read as an authority: then the redirect goes to a host that the client's URI did not
name.
-/

namespace ProofKey.OAuthError

variable {e : OAuthError} {redirectUri : Text} {state : Option Text} {uri : Uri}

/-- A written query can stand in a URI without changing what else is read from it. -/
theorem splittable_redirect (parsed : Uri.parse redirectUri = .ok uri)
    (entries : List (Text × Text)) : Uri.Splittable { uri with query := Query.encode entries } := by
  obtain ⟨_, rfl⟩ := Uri.parse_eq_ok_iff.mp parsed
  refine (Uri.splittable_parts redirectUri).withQuery (fun c member => ?_)
    (Query.not_mem_encode (by decide) (by decide) (by decide))
  exact Uri.isIgnored_eq_false
    (p := fun c => (Grammar.isUnreserved c = true ∨ c = CodePoint.ofChar '%') ∨
      c = CodePoint.ofChar '&' ∨ c = CodePoint.ofChar '=')
    (Query.mem_encode member) (by decide) (by decide) (by decide)

theorem parse_redirect (parsed : Uri.parse redirectUri = .ok uri) {written : Text}
    (same : (Uri.parts written).authority = uri.authority) :
    Uri.parse written = .ok (Uri.parts written) := by
  obtain ⟨sound, rfl⟩ := Uri.parse_eq_ok_iff.mp parsed
  exact Uri.parse_eq_ok_iff.mpr ⟨same ▸ sound, rfl⟩

/-- For an error and a state without surrogates, a URI has a redirect exactly if there are none in
its query. The redirect leaves all of the URI but its query alone exactly if the URI has an
authority, or its path does not start with two slashes and, if the scheme asks for an authority, is
empty or starts with one. So an authority and the path behind it stay as they are, and only where
the authority is empty and the path starts with two slashes, another authority can be read from the
redirect: it is what stands behind these slashes. -/
theorem redirect_keeps_target (e : OAuthError) (state : Option Text)
    (descriptionScalar : e.description.Scalar) (stateScalar : ∀ s, state = some s → s.Scalar)
    (parsed : Uri.parse redirectUri = .ok uri) :
    (uri.query.Scalar ↔ ∃ written, e.redirect redirectUri state = .ok written) ∧
    (¬uri.query.Scalar → ∃ run, e.redirect redirectUri state = .error (.surrogates run)) ∧
    ∀ written, e.redirect redirectUri state = .ok written →
      ((∃ again, Uri.parse written = .ok again ∧ again.scheme = uri.scheme ∧
          again.authority = uri.authority ∧ again.path = uri.path ∧
          again.fragment = uri.fragment) ↔
        uri.authority ≠ [] ∨ ¬Uri.slashes <+: uri.path ∧
          ((uri.scheme = [] ∨ uri.scheme ∉ Uri.authoritySchemes) ∨
            uri.path = [] ∨ uri.path.head? = some (CodePoint.ofChar '/'))) ∧
      (uri.authority ≠ [] → ∃ again, Uri.parse written = .ok again ∧
        again.authority = uri.authority ∧ again.path = uri.path) ∧
      (¬(uri.authority = [] ∧ Uri.slashes <+: uri.path) →
        ∃ again, Uri.parse written = .ok again ∧ again.authority = uri.authority) ∧
      ∀ rest, uri.authority = [] → uri.path = Uri.slashes ++ rest →
        (Uri.parts written).authority = rest.takeWhile fun c => !Uri.endsAuthority c := by
  let asked : Uri := { uri with query := Query.encode (e.redirectEntries uri.query state) }
  have clear := scalar_entries_iff descriptionScalar stateScalar uri.query
  have sent (scalar : uri.query.Scalar) : e.redirect redirectUri state = .ok asked.render :=
    redirect_of_scalar parsed (clear.mpr scalar)
  have unsent (spoilt : ¬uri.query.Scalar) :
      ∃ run, e.redirect redirectUri state = .error (.surrogates run) :=
    redirect_of_not_scalar parsed (mt clear.mp spoilt)
  have clean {written : Text} (redirected : e.redirect redirectUri state = .ok written) :
      uri.query.Scalar := by
    by_contra spoilt
    obtain ⟨run, failed⟩ := unsent spoilt
    simp [redirected] at failed
  refine ⟨⟨fun scalar => ⟨_, sent scalar⟩, fun ⟨_, redirected⟩ => clean redirected⟩, unsent, ?_⟩
  intro written redirected
  obtain rfl : asked.render = written := by
    rw [sent (clean redirected)] at redirected
    exact Except.ok.inj redirected
  have splittable : asked.Splittable := splittable_redirect parsed _
  have unnamed : [] ∉ Uri.authoritySchemes := by decide
  have kept : (∃ again, Uri.parse asked.render = .ok again ∧ again.scheme = uri.scheme ∧
      again.authority = uri.authority ∧ again.path = uri.path ∧
      again.fragment = uri.fragment) ↔ Uri.parts asked.render = asked := by
    constructor
    · rintro ⟨again, read, scheme, authority, path, fragment⟩
      obtain ⟨_, rfl⟩ := Uri.parse_eq_ok_iff.mp read
      exact Uri.ext scheme authority path splittable.query_parts_render fragment
    · intro same
      refine ⟨Uri.parts asked.render, parse_redirect parsed (by rw [same]), ?_⟩
      rw [same]
      exact ⟨rfl, rfl, rfl, rfl⟩
  have target : Uri.parts asked.render = asked ↔ uri.authority ≠ [] ∨ ¬Uri.slashes <+: uri.path ∧
      ((uri.scheme = [] ∨ uri.scheme ∉ Uri.authoritySchemes) ∨
        uri.path = [] ∨ uri.path.head? = some (CodePoint.ofChar '/')) := by
    have silent : uri.scheme = [] ∨ uri.scheme ∉ Uri.authoritySchemes ↔
        uri.scheme ∉ Uri.authoritySchemes :=
      or_iff_right_of_imp fun empty => empty ▸ unnamed
    rw [silent]
    exact splittable.parts_render_eq_self_iff
  refine ⟨kept.trans target, ?_, ?_, ?_⟩
  · intro nonempty
    obtain ⟨again, read, _, authority, path, _⟩ := (kept.trans target).mpr (.inl nonempty)
    exact ⟨again, read, authority, path⟩
  · intro apart
    have same : (Uri.parts asked.render).authority = uri.authority :=
      splittable.authority_parts_render apart
    exact ⟨_, parse_redirect parsed same, same⟩
  · intro rest empty begins
    exact splittable.authority_parts_render_of_slashes empty begins

/-- A host with a port stays where it is; a path with two slashes at its start becomes a host. -/
theorem redirect_keeps_target_sample :
    let e : OAuthError := ⟨.general, "d"⟩
    let kept : Text := "HTTPS://App.example:8080/cb?x=:#?f"
    let moved : Text := "app:////other.example/cb"
    (∃ written again, e.redirect kept none = .ok written ∧ Uri.parse written = .ok again ∧
      again.authority = "App.example:8080" ∧ again.path = "/cb") ∧
    (Uri.parts moved).authority = [] ∧
    ∃ written, e.redirect moved (some "s") = .ok written ∧
      (Uri.parts written).authority = "other.example" := by
  intro e kept moved
  have described : e.description.Scalar := Text.scalar_ofString _
  have parsed : Uri.parse kept = .ok (Uri.parts kept) := rfl
  have alsoParsed : Uri.parse moved = .ok (Uri.parts moved) := rfl
  obtain ⟨writes, _, keeps⟩ := redirect_keeps_target e none described (by simp) parsed
  obtain ⟨written, redirected⟩ := writes.mp (Uri.scalar_query_parts (Text.scalar_ofString _))
  obtain ⟨_, withAuthority, _⟩ := keeps written redirected
  obtain ⟨again, read, authority, path⟩ := withAuthority (by decide)
  obtain ⟨alsoWrites, _, moves⟩ := redirect_keeps_target e (some "s") described
    (by simpa using Text.scalar_ofString "s") alsoParsed
  obtain ⟨other, alsoRedirected⟩ :=
    alsoWrites.mp (Uri.scalar_query_parts (Text.scalar_ofString _))
  obtain ⟨_, _, _, fromPath⟩ := moves other alsoRedirected
  refine ⟨⟨written, again, redirected, read, authority.trans (by decide), path.trans (by decide)⟩,
    by decide, other, alsoRedirected, ?_⟩
  exact (fromPath "other.example/cb" (by decide) (by decide)).trans (by decide)

/-- A URI with an authority has no redirect if there is a surrogate in its query. -/
theorem surrogate_stops_redirect :
    let e : OAuthError := ⟨.general, "d"⟩
    let surrogate : CodePoint := ⟨0xD800, by decide⟩
    let redirectUri : Text := Text.ofString "https://app/cb?x=" ++ [surrogate]
    ∃ uri, Uri.parse redirectUri = .ok uri ∧ e.description.Scalar ∧
      e.redirect redirectUri none = .error (.surrogates ⟨0, surrogate, 0⟩) ∧
      ¬((∃ written again, e.redirect redirectUri none = .ok written ∧
          Uri.parse written = .ok again ∧ again.scheme = uri.scheme ∧
          again.authority = uri.authority ∧ again.path = uri.path ∧
          again.fragment = uri.fragment) ↔
        uri.authority ≠ [] ∨ ¬Uri.slashes <+: uri.path ∧
          ((uri.scheme = [] ∨ uri.scheme ∉ Uri.authoritySchemes) ∨
            uri.path = [] ∨ uri.path.head? = some (CodePoint.ofChar '/'))) := by
  intro e surrogate redirectUri
  have fails : e.redirect redirectUri none = .error (.surrogates ⟨0, surrogate, 0⟩) := by
    decide +kernel
  refine ⟨Uri.parts redirectUri, rfl, Text.scalar_ofString _, fails, fun claimed => ?_⟩
  have named : (Uri.parts redirectUri).authority ≠ [] := by decide
  obtain ⟨written, _, redirected, _⟩ := claimed.mpr (.inl named)
  simp [fails] at redirected

end ProofKey.OAuthError
