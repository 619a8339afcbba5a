import ProofKey.Http.Front
import ProofKey.Proofs.Mapping
import ProofKey.Proofs.Percent
import ProofKey.Proofs.Uri.RoundTrip

/-! # What is known of a framework

Of the framework before the endpoint one thing is taken for granted: what it has for
a name is the last item of that name. The URL that it puts together for a request is
its own affair. For most requests the query of this URL is the query that was sent, but
a `#` in it begins a fragment, and so does one in the host.
-/

namespace ProofKey.Http

section Counting

variable {α : Type}

/-- Of several items of one name the last one counts. -/
def Multi.LastCounts (m : Multi α) : Prop :=
  ∀ name, m.mapping.get? name = Mapping.last? m.items name

theorem Multi.lastCounts_ofItems (items : List (Text × α)) : (ofItems items).LastCounts :=
  Mapping.get?_ofList items

/-- What a framework promises of repeated names, in queries and in forms. -/
structure Front.LastCounts (front : Front) : Prop where
  query : ∀ request, (front.query request).LastCounts
  form : ∀ request form, front.form request = .ok form → form.LastCounts

theorem Front.lastCounts_standard : standard.LastCounts where
  query _ := Multi.lastCounts_ofItems _
  form request form read := by
    simp only [standard] at read
    cases found : Form.items request with
    | error error =>
        rw [found] at read
        cases read
    | ok items =>
        rw [found] at read
        obtain rfl : Multi.ofItems items = form := Except.ok.inj read
        exact Multi.lastCounts_ofItems items

end Counting

section Url

variable {request : Request} {path : Text} {c : CodePoint}

/-- A request whose parts stay apart in a URL: the host is one that a URI can have, the path starts
with a slash, and nothing in the query ends it or does not count. -/
structure Request.Proper (request : Request) : Prop where
  named : request.host ≠ []
  sound : Uri.SoundAuthority request.host
  host : ∀ c ∈ request.host, Uri.endsAuthority c = false ∧ Uri.isIgnored c = false
  rooted : request.path.head? = some (CodePoint.ofChar '/')
  query : ∀ c ∈ request.query, Uri.isIgnored c = false ∧ c ≠ CodePoint.ofChar '#'

theorem mem_pathText (member : c ∈ pathText path) :
    c = CodePoint.ofChar '/' ∨ Grammar.isUnreserved c = true ∨ c = CodePoint.ofChar '%' := by
  obtain ⟨d, _, member⟩ := List.mem_flatMap.mp member
  split at member
  · rename_i slash
    exact .inl ((List.mem_singleton.mp member).trans slash)
  · exact .inr (Percent.mem_encode (t := [d]) (by simpa [Percent.encode] using member))

theorem head_pathText (rooted : path.head? = some (CodePoint.ofChar '/')) :
    (pathText path).head? = some (CodePoint.ofChar '/') := by
  cases path with
  | nil => simp at rooted
  | cons c rest =>
      obtain rfl : c = CodePoint.ofChar '/' := by simpa using rooted
      rfl

def Request.uri (request : Request) : Uri :=
  ⟨"http", request.host, pathText request.path, request.query, []⟩

theorem isScheme_http : Uri.IsScheme (Text.ofString "http") :=
  ⟨⟨'h', Text.ofString "ttp", rfl, rfl⟩, by decide⟩

theorem Request.Proper.splittable (proper : request.Proper) : request.uri.Splittable where
  scheme := isScheme_http.chars
  authority c member := (proper.host c member).1
  path := by
    have apart (mark : CodePoint) (other : ¬(mark = CodePoint.ofChar '/' ∨
        Grammar.isUnreserved mark = true ∨ mark = CodePoint.ofChar '%')) :
        mark ∉ pathText request.path := mt mem_pathText other
    exact ⟨apart '?' (by decide), apart '#' (by decide)⟩
  query member := (proper.query _ member).2 rfl
  visible := by
    have path : ∀ c ∈ pathText request.path, Uri.isIgnored c = false := fun c member =>
      Uri.isIgnored_eq_false
        (p := fun c => c = CodePoint.ofChar '/' ∨ Grammar.isUnreserved c = true ∨
          c = CodePoint.ofChar '%')
        (mem_pathText member) (by decide) (by decide) (by decide)
    have scheme : ∀ c ∈ Text.ofString "http", Uri.isIgnored c = false := by decide
    simp only [uri, List.forall_mem_cons]
    exact ⟨scheme, fun c member => (proper.host c member).2, path,
      fun c member => (proper.query c member).1, by simp, by simp⟩
  lowered _ := ⟨isScheme_http, rfl⟩
  rooted _ := Uri.rootedPath_eq_self_iff.mpr (.inr (head_pathText proper.rooted))
  bare unnamed := by simp [uri, Text.ofString] at unnamed

theorem Request.Proper.url_eq (proper : request.Proper) : request.url = request.uri.render := by
  have shown : request.uri.showsAuthority = true :=
    Uri.showsAuthority_iff.mpr (.inl proper.named)
  have rooted : Uri.rootedPath (pathText request.path) = pathText request.path :=
    Uri.rootedPath_eq_self_iff.mpr (.inr (head_pathText proper.rooted))
  rw [Uri.render_eq, Uri.hierText_of_shown shown]
  simp only [uri, rooted, Uri.tailText]
  simp [url, Uri.schemeText, Uri.marked, Uri.slashes, Text.ofString]

/-- For a proper request the standard framework finds the query that was sent. -/
theorem Front.urlQuery_standard (proper : request.Proper) :
    standard.urlQuery request = .ok request.query := by
  have same : Uri.parts request.url = request.uri := by
    rw [proper.url_eq]
    exact proper.splittable.parts_render_eq_self_iff.mpr (.inl proper.named)
  have parsed : Uri.parse request.url = .ok request.uri :=
    Uri.parse_eq_ok_iff.mpr
      ⟨same ▸ Uri.checkAuthority_eq_ok_iff.mpr proper.sound, same.symm⟩
  simp only [standard, parsed]
  rfl

end Url

end ProofKey.Http
