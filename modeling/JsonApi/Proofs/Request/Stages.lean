import JsonApi.Proofs.Document.Spelling
import JsonApi.Proofs.Failure
import JsonApi.Request.Build

/-!
# Stages of building

Building a request goes through the base URL, the checks of what is given, the content, and the URL
and headers of the request.  `Request.get_eq` and `Request.change_eq` say in which order, and
`Request.get_eq_ok_iff` and `Request.change_eq_ok_iff` what was seen to when a request comes out of
them.  `Request.Builds` is what comes out for some settings and method.
-/

namespace JsonApi.Request

variable {base : Json} {type id method : Text} {s : Settings} {q : Request} {u url : Url}

/-- The request for a resource once its base is known: its URL and its headers are made. -/
def fetch (u : Url) (type id : Text) (s : Settings) : Except Failure Request :=
  resourceUrl u type id >>= fun url =>
    faulted (make "GET" url [(.text "Accept", .text s.mediaType)] [])

/-- The fields that a request for a resource with content is given. -/
def givenFields (s : Settings) (content : Bytes) : GivenHeaders :=
  [(.text "Accept", .text s.mediaType), (.text "Content-Type", .text s.mediaType),
    (.text "Content-Length", .text (Text.ofNat content.length))]

/-- The request that sends a resource once its base is known and its method is one of those that
go with a resource. -/
def send (u : Url) (method : Text) (r : Resource) (s : Settings) : Except Failure Request :=
  (r.validate method).mapError (fun v => .api v.error) >>= fun _ =>
    contentOf method r s >>= fun content =>
      resourceUrl u r.type r.id >>= fun url =>
        faulted (make method url (givenFields s content) content)

theorem get_eq : get base type id s = baseUrl base >>= fun u =>
    if type = [] then refuse .missingType else fetch u type id s := rfl

theorem change_eq (resource : Option Resource) :
    change method base resource s = baseUrl base >>= fun u =>
      if method.upper = ("GET" : Text) then refuse .reserved
      else if !resourceMethods.contains method.upper then refuse (.unsupported method.upper)
      else resource.elim (refuse (.missingResource method.upper)) fun r =>
        send u method.upper r s := by
  cases resource <;> rfl

theorem fetch_eq_ok_iff : fetch u type id s = .ok q ↔ ∃ url, resourceUrl u type id = .ok url ∧
    make "GET" url [(.text "Accept", .text s.mediaType)] [] = .ok q := by
  simp only [fetch, faulted, Except.bind_eq_ok_iff, Except.mapError_eq_ok_iff]

theorem send_eq_ok_iff {r : Resource} : send u method r s = .ok q ↔
    r.validate method = .ok () ∧ ∃ content url, contentOf method r s = .ok content ∧
      resourceUrl u r.type r.id = .ok url ∧
        make method url (givenFields s content) content = .ok q := by
  simp only [send, faulted, Except.bind_eq_ok_iff, Except.mapError_eq_ok_iff,
    exists_and_left]
  exact ⟨fun ⟨_, h⟩ => h, fun h => ⟨(), h⟩⟩

/-- A request is fetched for a type below a base that is accepted. -/
theorem get_eq_ok_iff : get base type id s = .ok q ↔
    type ≠ [] ∧ ∃ u, baseUrl base = .ok u ∧ fetch u type id s = .ok q := by
  rw [get_eq, Except.bind_eq_ok_iff]
  split_ifs with htype
  · exact iff_of_false (fun ⟨_, _, h⟩ => nomatch h) fun h => h.1 htype
  · exact (and_iff_right htype).symm

/-- A resource is sent below a base that is accepted with a method that goes with resources. -/
theorem change_eq_ok_iff {resource : Option Resource} : change method base resource s = .ok q ↔
    resourceMethods.contains method.upper = true ∧ ∃ r, resource = some r ∧
      ∃ u, baseUrl base = .ok u ∧ send u method.upper r s = .ok q := by
  rw [change_eq, Except.bind_eq_ok_iff]
  split_ifs with hget hmethod
  · rw [hget]
    exact iff_of_false (fun ⟨_, _, h⟩ => nomatch h) fun h => absurd h.1 (by decide)
  · refine iff_of_false (fun ⟨_, _, h⟩ => nomatch h) fun h => ?_
    rw [h.1] at hmethod
    cases hmethod
  · rw [Bool.not_eq_true, Bool.not_eq_false'] at hmethod
    cases resource with
    | none => exact iff_of_false (fun ⟨_, _, h⟩ => nomatch h) (fun ⟨_, _, h, _⟩ => nomatch h)
    | some r =>
      constructor
      · exact fun h => ⟨hmethod, r, rfl, h⟩
      · rintro ⟨-, _, ⟨⟩, h⟩
        exact h

/-! ### What was built -/

/-- A request that was built for a type and an id below a base, with any method under any
settings. -/
inductive Builds (base : Json) : Text → Text → Request → Prop
  | get {settings : Except ValidationError Settings} {type id : Text} {p : PreparedRequest}
      (h : (buildGet settings base type id).result = .ok p) : Builds base type id p.request
  | change {settings : Except ValidationError Settings} {method : Text} {r : Resource}
      {p : PreparedRequest} (h : (build settings method base (some r)).result = .ok p) :
      Builds base r.type r.id p.request

theorem exists_of_outcome {settings : Except ValidationError Settings}
    {build : Settings → Except Failure Request} {p : PreparedRequest}
    (h : (outcome settings build).result = .ok p) :
    ∃ s, settings = .ok s ∧ build s = .ok p.request := by
  unfold outcome at h
  split at h
  · cases h
  · rename_i s
    split at h
    · cases h
    · rename_i hbuild
      obtain rfl := Except.ok.inj h
      exact ⟨s, rfl, hbuild⟩

theorem url_of_make {given : GivenHeaders} {content : Bytes}
    (h : make method url given content = .ok q) : q.method = method.upper ∧ q.url = url := by
  obtain ⟨given, -, h⟩ := Except.bind_eq_ok_iff.1 h
  obtain ⟨host, -, h⟩ := Except.bind_eq_ok_iff.1 h
  obtain rfl := Except.ok.inj h
  exact ⟨rfl, rfl⟩

theorem creates_of_validate {r : Resource} (h : r.validate method = .ok ()) (hid : r.id = []) :
    method.upper = "POST" := by
  obtain ⟨_, hidentity, -⟩ := Except.bind_eq_ok_iff.1 h
  obtain ⟨-, -, hsame, hcreates⟩ := Resource.checkIdentity_eq_ok_iff.1 hidentity
  exact hcreates (Json.string.inj hsame ▸ hid)

/-- The URL of a request is that of its resource, and only some methods do without an id. -/
theorem Builds.exists_base (h : Builds base type id q) : ∃ u, baseUrl base = .ok u ∧
    resourceUrl u type id = .ok q.url ∧ (id = [] → q.method = "GET" ∨ q.method = "POST") := by
  cases h with
  | get h =>
    obtain ⟨s, -, h⟩ := exists_of_outcome h
    obtain ⟨-, u, hu, h⟩ := get_eq_ok_iff.1 h
    obtain ⟨url, hurl, h⟩ := fetch_eq_ok_iff.1 h
    obtain ⟨hmethod, rfl⟩ := url_of_make h
    exact ⟨u, hu, hurl, fun _ => .inl (hmethod.trans (by decide))⟩
  | change h =>
    obtain ⟨s, -, h⟩ := exists_of_outcome h
    obtain ⟨-, r, ⟨⟩, u, hu, h⟩ := change_eq_ok_iff.1 h
    obtain ⟨hvalid, content, url, -, hurl, h⟩ := send_eq_ok_iff.1 h
    obtain ⟨hmethod, rfl⟩ := url_of_make h
    exact ⟨u, hu, hurl, fun hid => .inr (hmethod.trans (creates_of_validate hvalid hid))⟩

theorem refuseValue_ne_ok {α : Type} {v : Json} {a : α} : refuseValue v ≠ .ok a := by
  intro h
  obtain ⟨quoted, -, hrefused⟩ := Except.bind_eq_ok_iff.1 h
  cases hrefused

theorem spelledBase_eq_ok_iff {t : Text} : spelledBase t = .ok u ↔ Url.ofText t = .ok u := by
  unfold spelledBase
  cases Url.ofText t with
  | ok u' => rw [Except.ok.injEq, Except.ok.injEq]
  | error e => cases e <;> exact iff_of_false nofun nofun

theorem exists_string_of_baseUrl (h : baseUrl base = .ok u) :
    ∃ t, base = .string t ∧ baseOfText t = .ok u := by
  cases base with
  | string t => exact ⟨t, rfl, h⟩
  | _ => exact absurd h refuseValue_ne_ok

/-- A base that was accepted spells a URL with a scheme that requests can go to, and with a host
that can be read. -/
theorem exists_of_baseUrl (h : baseUrl base = .ok u) : ∃ t, base = .string t ∧
    Url.ofText t = .ok u ∧ isServed u.scheme = true ∧
      ∃ host, u.readableHost = .ok host ∧ host ≠ [] := by
  obtain ⟨t, rfl, h⟩ := exists_string_of_baseUrl h
  obtain ⟨u', hu, h⟩ := Except.bind_eq_ok_iff.1 h
  have hspelled := spelledBase_eq_ok_iff.1 hu
  split at h
  · rename_i hserved
    obtain ⟨host, hhost, h⟩ := Except.bind_eq_ok_iff.1 h
    have hreadable := Except.mapError_eq_ok_iff.1 (Except.mapError_eq_ok_iff.1 hhost)
    split at h
    · cases h
    · obtain rfl := Except.ok.inj h
      exact ⟨t, rfl, hspelled, hserved, host, hreadable, ‹_›⟩
  · cases h

theorem resourceUrl_eq_ok_iff : resourceUrl u type id = .ok url ↔
    u.withPath (Resource.path u.readablePath type id) = .ok url := by
  unfold resourceUrl
  split
  · rename_i hurl
    rw [hurl]
    exact ⟨fun h => congrArg Except.ok (Except.ok.inj h),
      fun h => congrArg Except.ok (Except.ok.inj h)⟩
  · rename_i hurl
    rw [hurl]
    exact iff_of_false nofun nofun
  · rename_i hurl
    rw [hurl]
    exact iff_of_false nofun nofun

theorem scheme_ne_nil (h : isServed u.scheme = true) : u.scheme ≠ [] := by
  intro hscheme
  rw [hscheme] at h
  exact absurd h (by decide)

theorem check_of_isServed (h : isServed u.scheme = true) :
    Url.Component.scheme.check u.scheme = .ok () := by
  have hserved : u.scheme = "http" ∨ u.scheme = "https" := by simpa [isServed] using h
  rcases hserved with h | h <;> rw [h] <;> decide

theorem host_ne_nil (h : ∃ host, u.readableHost = .ok host ∧ host ≠ []) : u.host ≠ [] := by
  obtain ⟨host, hhost, hne⟩ := h
  intro hnil
  rw [Url.readableHost, hnil] at hhost
  exact hne (Except.ok.inj hhost).symm

end JsonApi.Request
