import JsonApi.Proofs.Document.Complete
import JsonApi.Proofs.Request.Exits
import JsonApi.Proofs.Request.Target
import JsonApi.Proofs.Url.Moved

/-!
# What is built

Below a base in ASCII a request for a resource is built exactly if its method goes with resources,
the resource has all that the method asks for, and what is written into the URL is not too long
(`Request.build_decides`).  A base that is refused comes first, what is missing comes second, and
lengths come last.
-/

namespace JsonApi

/-! ### Paths -/

/-- A resource whose type and id are written as they are, and whose texts have a form in UTF-8. -/
structure Resource.Plain (r : Resource) : Prop where
  scalar : r.Scalar
  type : ∀ c ∈ r.type, Percent.isUnreserved c = true
  id : ∀ c ∈ r.id, Percent.isUnreserved c = true
  id_direct : ¬ Url.IsDots r.id

theorem Url.Verbatim.path_of_plain {base : Text} (hbase : Verbatim base) {r : Resource}
    (hr : r.Plain) : Verbatim (Resource.path base r.type r.id) := by
  have hunreserved : ∀ t : Text, (∀ c ∈ t, Percent.isUnreserved c = true) →
      (∀ c ∈ t, isVerbatim c = true) ∧ .scalar '/' ∉ t := fun t ht =>
    ⟨fun c hc => isVerbatim_iff.2 (.inl (ht c hc)), fun hmem => Bool.noConfusion (ht _ hmem)⟩
  obtain ⟨htype, htype_bare⟩ := hunreserved r.type hr.type
  obtain ⟨hid, hid_bare⟩ := hunreserved r.id hr.id
  constructor
  · obtain ⟨rest, hrest⟩ := List.head?_eq_some_iff.1 hbase.absolute
    rw [hrest, Resource.path]
    split_ifs <;> rfl
  · exact Resource.forall_mem_path hbase.plain htype hid rfl rfl
  · have hne : base ≠ [] := by
      rintro rfl
      cases hbase.absolute
    exact Resource.direct_path_of_bare hne hbase.direct htype_bare hid_bare hr.id_direct

/-- The path of a base is written as it is, if its characters stand for themselves. -/
theorem Url.verbatim_of_ofText {t : Text} {u : Url} (hu : ofText t = .ok u)
    (hscheme : u.scheme ≠ []) (hhost : u.host ≠ []) (hpath : ∀ c ∈ u.path, isVerbatim c = true) :
    Verbatim u.readablePath := by
  have hpercent : ∀ p : Text, (∀ c ∈ p, isVerbatim c = true) →
      .scalar '%' ∉ p := fun p hp hmem => Bool.noConfusion (hp _ hmem)
  have hescaped := escapedAs_of_ofText hu hscheme
  -- the path holds no escape, so it is what was spelled
  have hsame := Percent.eq_of_encode ofAscii_isSafeInPath hescaped (hpercent _ hpath)
  have hplain := plainPath_of_ofText hu hscheme hhost
    (Percent.holdsEscape_of_not_mem (hsame ▸ hpercent _ hpath))
  have hshown : ∀ c ∈ u.shownPath, isVerbatim c = true := by
    unfold shownPath
    split_ifs
    · decide
    · exact hpath
  have hread := Percent.eq_of_encode ofAscii_isSafeInPath hplain.escaped (hpercent _ hshown)
  exact ⟨hplain.absolute, hread ▸ hshown, hplain.direct⟩

namespace Request

variable {base : Json} {t method : Text} {s : Settings} {u url : Url} {r : Resource} {q : Request}

/-! ### Bases -/

/-- A base that is refused for what it is. -/
def Malformed (base : Json) : Prop := ∃ r : Refusal, baseUrl base = refuse r

/-- A text in ASCII that spells a URL for requests, without query and fragment, with a host that
is read as it is written and a path of characters that stand for themselves. -/
structure PlainBase (t : Text) (u : Url) : Prop where
  ascii : t.IsAscii
  spelled : Url.ofText t = .ok u
  served : u.scheme = "http" ∨ u.scheme = "https"
  host_ne : u.host ≠ []
  host_plain : Host.Label.asciiPrefix.isPrefixOf u.host = false
  query : u.query = none
  fragment : u.fragment = none
  path : ∀ c ∈ u.path, Url.isVerbatim c = true

namespace PlainBase

variable (h : PlainBase t u)

include h

theorem isServed_eq : isServed u.scheme = true := by
  rcases h.served with h | h <;> rw [h] <;> decide

theorem readableHost_eq : u.readableHost = .ok u.host := by
  rw [Url.readableHost, h.host_plain]
  rfl

theorem baseUrl_eq : baseUrl (.string t) = .ok u := by
  have hspelled := spelledBase_eq_ok_iff.2 h.spelled
  rw [baseUrl, baseOfText, hspelled, Except.ok_bind, if_pos h.isServed_eq, h.readableHost_eq]
  exact if_neg h.host_ne

theorem not_malformed : ¬ Malformed (.string t) := by
  rintro ⟨r, hr⟩
  rw [h.baseUrl_eq] at hr
  cases hr

theorem soundBase : SoundBase (.string t) :=
  soundBase_of_ofText (Text.isScalar_of_isAscii (List.all_eq_true.1 h.ascii)) h.spelled
    ⟨_, h.readableHost_eq⟩ (Url.isAscii_host h.ascii h.spelled)

/-- The path of the base is written as it is. -/
theorem verbatim : Url.Verbatim u.readablePath :=
  Url.verbatim_of_ofText h.spelled (scheme_ne_nil h.isServed_eq) h.host_ne h.path

theorem exists_resourceUrl_iff (hr : r.Plain) : (∃ url, resourceUrl u r.type r.id = .ok url) ↔
    u.authority.length ≤ Url.lengthLimit ∧
      (Resource.path u.readablePath r.type r.id).length ≤ Url.lengthLimit := by
  simp only [resourceUrl_eq_ok_iff]
  exact Url.exists_withPath_iff h.ascii h.spelled (check_of_isServed h.isServed_eq) h.query
    h.fragment (h.verbatim.path_of_plain hr) (scheme_ne_nil h.isServed_eq)

theorem isMoved_of_resourceUrl (hr : r.Plain) (hurl : resourceUrl u r.type r.id = .ok url) :
    u.IsMoved (Resource.path u.readablePath r.type r.id) url :=
  Url.isMoved_of_withPath (Url.ofText_eq_ok_iff.1 h.spelled).2 (h.verbatim.path_of_plain hr)
    (scheme_ne_nil h.isServed_eq) (resourceUrl_eq_ok_iff.1 hurl)

end PlainBase

/-! ### What is asked for -/

/-- The method goes with resources, and the resource has all that it asks for. -/
structure Asked (method : Text) (r : Resource) : Prop where
  changes : method = "PATCH" ∨ method = "POST" ∨ method = "DELETE"
  complete : r.Complete method

/-- The authority of a base and the path of a resource below it are short enough for a URL. -/
def Fits (u : Url) (r : Resource) : Prop :=
  u.authority.length ≤ Url.lengthLimit ∧
    (Resource.path u.readablePath r.type r.id).length ≤ Url.lengthLimit

/-- The request sends the resource with the method below the base: to the path of the resource, with
its document for content unless it is deleted, and with headers for the media type. -/
structure Sends (s : Settings) (method : Text) (u : Url) (r : Resource) (q : Request) : Prop where
  name : q.method = method
  url : u.IsMoved (Resource.path u.readablePath r.type r.id) q.url
  content : if method = ("DELETE" : Text) then q.content = []
    else Document.render (some s.jsonIndent) (Document.single r) = .ok q.content
  headers : ∃ front, NamesHost front ∧ q.headers = front ++ resourceFields s.mediaType q.content

theorem contains_resourceMethods_iff : resourceMethods.contains method = true ↔
    method = "PATCH" ∨ method = "POST" ∨ method = "DELETE" := by
  simp [resourceMethods]

/-- The methods that go with resources are in capitals. -/
theorem upper_of_contains (h : resourceMethods.contains method = true) : method.upper = method := by
  rcases contains_resourceMethods_iff.1 h with rfl | rfl | rfl <;> decide

theorem asked_iff : Asked method r ↔
    resourceMethods.contains method = true ∧ r.validate method = .ok () := by
  rw [contains_resourceMethods_iff, Resource.validate_eq_ok_iff]
  constructor
  · intro h
    have hupper := upper_of_contains (contains_resourceMethods_iff.2 h.changes)
    exact ⟨h.changes, hupper.symm ▸ h.complete⟩
  · rintro ⟨hmethod, hcomplete⟩
    have hupper := upper_of_contains (contains_resourceMethods_iff.2 hmethod)
    exact ⟨hmethod, hupper ▸ hcomplete⟩

/-! ### What becomes of it -/

theorem failsAs_refuse {α : Type} (r : Refusal) :
    FailsAs r.error.errorClass (refuse r : Except Failure α) := ⟨r.error, rfl, rfl⟩

theorem failsAs_of_malformed (h : Malformed base) (resource : Option Resource) :
    FailsAs .request (change method base resource s) := by
  obtain ⟨r, hr⟩ := h
  have hclass : r.error.errorClass ∈ [ErrorClass.request] := failsOnly_baseUrl_within base _ hr
  rw [change_eq, hr]
  exact ⟨r.error, rfl, List.mem_singleton.1 hclass⟩

/-- Below a base that is accepted, what is not asked for in full is against the specification. -/
theorem failsAs_of_not_asked (hu : baseUrl base = .ok u) {resource : Option Resource}
    (h : ¬ ∃ r, resource = some r ∧ Asked method.upper r) :
    FailsAs .specification (change method base resource s) := by
  rw [change_eq, hu, Except.ok_bind]
  -- one case for each check behind that of the base, in their order
  split_ifs with hget hmethod
  · exact failsAs_refuse .reserved
  · exact failsAs_refuse (.unsupported method.upper)
  · cases resource with
    | none => exact failsAs_refuse (.missingResource method.upper)
    | some r =>
      rw [Bool.not_eq_true, Bool.not_eq_false'] at hmethod
      cases hvalid : r.validate method.upper with
      | ok _ => exact absurd ⟨r, rfl, asked_iff.2 ⟨hmethod, hvalid⟩⟩ h
      | error v =>
        rw [Option.elim_some, send, hvalid]
        exact ⟨v.error, rfl, rfl⟩

theorem contentOf_eq_ok_iff (hmethod : resourceMethods.contains method = true) {content : Bytes} :
    contentOf method r s = .ok content ↔ if method = ("DELETE" : Text) then content = []
      else Document.render (some s.jsonIndent) (Document.single r) = .ok content := by
  have hcarried : (faulted ((Document.render (some s.jsonIndent) (Document.single r)).mapError
      .coding) : Except Failure Bytes) = .ok content ↔
        Document.render (some s.jsonIndent) (Document.single r) = .ok content := by
    rw [faulted, Except.mapError_eq_ok_iff, Except.mapError_eq_ok_iff]
  rcases contains_resourceMethods_iff.1 hmethod with rfl | rfl | rfl
  · exact hcarried
  · exact hcarried
  · exact ⟨fun h => (Except.ok.inj h).symm, fun h => congrArg Except.ok (Eq.symm h)⟩

theorem sends_of_change (hs : s.mediaType.IsAscii) (hbase : PlainBase t u) (hr : r.Plain)
    (h : change method (.string t) (some r) s = .ok q) : Sends s method.upper u r q := by
  obtain ⟨hmethod, _, ⟨⟩, u', hu', hsend⟩ := change_eq_ok_iff.1 h
  obtain rfl := Except.ok.inj (hbase.baseUrl_eq.symm.trans hu')
  obtain ⟨-, content, url, hcontent, hurl, hmake⟩ := send_eq_ok_iff.1 hsend
  obtain ⟨hname, rfl, front, hfront, hheaders⟩ := make_resource hs hmake
  obtain ⟨-, rfl⟩ := url_of_make hmake
  exact ⟨hname.trans (upper_of_contains hmethod), hbase.isMoved_of_resourceUrl hr hurl,
    (contentOf_eq_ok_iff hmethod).1 hcontent, front, hfront, hheaders⟩

theorem exists_change_iff_fits (hs : s.mediaType.IsAscii) (hbase : PlainBase t u)
    {resource : Option Resource} (hresource : ∀ r ∈ resource, r.Plain) :
    (∃ q, change method (.string t) resource s = .ok q) ↔
      ∃ r, resource = some r ∧ Asked method.upper r ∧ Fits u r := by
  have haccepts : ∀ r ∈ resource, Accepts (.string t) r.type r.id ↔ Fits u r := fun r hr => by
    rw [Fits, ← hbase.exists_resourceUrl_iff (hresource r hr)]
    simp only [Accepts, hbase.baseUrl_eq, Except.ok.injEq, exists_eq_left', exists_and_left]
  rw [exists_change_iff hbase.soundBase hs method fun r hr => (hresource r hr).scalar]
  constructor
  · rintro ⟨hmethod, r, hr, hvalid, haccept⟩
    exact ⟨r, hr, asked_iff.2 ⟨hmethod, hvalid⟩, (haccepts r hr).1 haccept⟩
  · rintro ⟨r, hr, hasked, hfits⟩
    obtain ⟨hmethod, hvalid⟩ := asked_iff.1 hasked
    exact ⟨hmethod, r, hr, hvalid, (haccepts r hr).2 hfits⟩

/-- What is asked for in full but does not fit is refused with the URL that cannot be made. -/
theorem failsAs_of_not_fits (hbase : PlainBase t u) (hr : r.Plain) (h : Asked method.upper r)
    (hfits : ¬ Fits u r) : FailsAs .request (change method (.string t) (some r) s) := by
  obtain ⟨hmethod, hvalid⟩ := asked_iff.1 h
  -- nothing before the URL goes wrong: the resource is valid, and its document has bytes
  obtain ⟨content, hcontent⟩ := exists_contentOf method.upper s hr.scalar
  have hurl : FailsAs .request (resourceUrl u r.type r.id) :=
    failsAs_of_failsOnly (failsOnly_resourceUrl (reachable_of_baseUrl hbase.soundBase
      hbase.baseUrl_eq) hr.scalar.type hr.scalar.id) ((hbase.exists_resourceUrl_iff hr).not.2 hfits)
  have hget : method.upper ≠ ("GET" : Text) := fun hget => by
    rw [hget] at hmethod
    exact absurd hmethod (by decide)
  rw [change_eq, hbase.baseUrl_eq, Except.ok_bind, if_neg hget, hmethod, if_neg (by decide),
    Option.elim_some, send, hvalid, hcontent]
  exact hurl.bind _

/-- **A change is decided by what is asked for.**  A base that is malformed is refused whatever else
is wrong.  Below a plain base a request is built exactly if there is a resource that is asked for in
full and that fits; it sends that resource.  What is not asked for in full is against the
specification, and only what does not fit is refused like a base. -/
theorem build_decides (hs : s.mediaType.IsAscii) (method : Text) (resource : Option Resource) :
    (∀ base, Malformed base → FailsAs .request (build (.ok s) method base resource).result) ∧
    ∀ t u, PlainBase t u → (∀ r ∈ resource, r.Plain) →
      ¬ Malformed (.string t) ∧
      ((∃ p, (build (.ok s) method (.string t) resource).result = .ok p) ↔
        ∃ r, resource = some r ∧ Asked method.upper r ∧ Fits u r) ∧
      ((¬ ∃ r, resource = some r ∧ Asked method.upper r) →
        FailsAs .specification (build (.ok s) method (.string t) resource).result) ∧
      ∀ r, resource = some r →
        (Asked method.upper r → ¬ Fits u r →
          FailsAs .request (build (.ok s) method (.string t) resource).result) ∧
        ∀ p, (build (.ok s) method (.string t) resource).result = .ok p →
          p.settings = s ∧ Sends s method.upper u r p.request := by
  simp only [build, result_outcome, Except.exists_map_eq_ok_iff]
  refine ⟨fun base h => (failsAs_of_malformed h resource).map _, fun t u hbase hresource => ?_⟩
  refine ⟨hbase.not_malformed, exists_change_iff_fits hs hbase hresource, fun h => ?_, ?_⟩
  · exact (failsAs_of_not_asked hbase.baseUrl_eq h).map _
  · rintro r rfl
    refine ⟨fun h hfits => ?_, fun p hp => ?_⟩
    · exact (failsAs_of_not_fits hbase (hresource r rfl) h hfits).map _
    · obtain ⟨q, hq, rfl⟩ := Except.map_eq_ok_iff.1 hp
      exact ⟨rfl, sends_of_change hs hbase (hresource r rfl) hq⟩

/-- Below a base whose port goes without saying a user is patched and nothing is put; a base without
a scheme is refused whatever is asked for. -/
theorem build_decides_user :
    Settings.default.mediaType.IsAscii ∧ Malformed (.string "apiserver") ∧
      FailsAs .request (build (.ok .default) "GET" (.string "apiserver") none).result ∧
      ∃ u, PlainBase "https://apiserver:443/v1/" u ∧ Resource.Plain ⟨"user", "7", none, none⟩ ∧
        FailsAs .specification (build (.ok .default) "put" (.string "https://apiserver:443/v1/")
          (some ⟨"user", "7", none, none⟩)).result ∧
        ∃ p, (build (.ok .default) "patch" (.string "https://apiserver:443/v1/")
          (some ⟨"user", "7", none, none⟩)).result = .ok p ∧
          p.request.method = "PATCH" ∧ p.request.url.path = "/v1/users/7" := by
  have hmedia : Settings.default.mediaType.IsAscii := by decide
  have hmalformed : Malformed (.string "apiserver") :=
    ⟨.relative "apiserver", rfl⟩
  obtain ⟨u, hu, hparts⟩ : ∃ u, Url.ofText "https://apiserver:443/v1/" = .ok u ∧
      decide (u = ⟨"https", [], "apiserver", none, "/v1/", none, none⟩) = true :=
    Except.exists_of_any (by decide +kernel)
  obtain rfl := of_decide_eq_true hparts
  have hbase : PlainBase "https://apiserver:443/v1/" _ :=
    ⟨by decide, hu, .inr rfl, List.cons_ne_nil _ _, by decide, rfl, rfl, by decide⟩
  have hplain : Resource.Plain ⟨"user", "7", none, none⟩ :=
    ⟨⟨rfl, rfl, nofun⟩, by decide, by decide, by decide⟩
  obtain ⟨hrefused, -⟩ := build_decides hmedia "GET" none
  obtain ⟨-, hput⟩ := build_decides hmedia "put" (some ⟨"user", "7", none, none⟩)
  obtain ⟨-, hpatch⟩ := build_decides hmedia "patch" (some ⟨"user", "7", none, none⟩)
  have hread : Url.readablePath ⟨"https", [], "apiserver", none, "/v1/", none, none⟩ = "/v1/" := by
    decide +kernel
  obtain ⟨-, hbuilt, -, hsent⟩ := hpatch _ _ hbase (by rintro _ ⟨⟩; exact hplain)
  obtain ⟨-, -, hunasked, -⟩ := hput _ _ hbase (by rintro _ ⟨⟩; exact hplain)
  obtain ⟨p, hp⟩ := hbuilt.2 ⟨_, rfl, asked_iff.2 ⟨by decide, rfl⟩, by decide, by
    rw [hread]
    decide⟩
  obtain ⟨-, hsends⟩ := (hsent _ rfl).2 p hp
  refine ⟨hmedia, hmalformed, hrefused _ hmalformed, _, hbase, hplain, hunasked ?_, p, hp, ?_, ?_⟩
  · rintro ⟨r, -, hasked⟩
    have := hasked.changes
    revert this
    decide
  · exact hsends.name.trans (by decide)
  · exact hsends.url.path.trans (by rw [hread]; decide)

/-! ### Authorities that are too long -/

/-- Quotation marks, which are escaped in the user information. -/
def quotes (n : Nat) : Text := List.replicate n (.scalar '"')

/-- A base with quotation marks for the user information. -/
def quotedBase (n : Nat) : Text := ("http://" : Text) ++ (quotes n ++ ("@h" : Text) ++ ("/" : Text))

theorem forall_mem_quotes {P : CodePoint → Prop} (h : P (.scalar '"')) (n : Nat) :
    ∀ c ∈ quotes n, P c := fun _ hc => List.eq_of_mem_replicate hc ▸ h

theorem exists_encode_quotes (n : Nat) :
    ∃ e, Percent.encode Url.isSafeInUserInfo (quotes n) = .ok e ∧ e.length = 3 * n := by
  induction n with
  | zero => exact ⟨[], rfl, rfl⟩
  | succ n ih =>
    obtain ⟨e, he, hlength⟩ := ih
    have hsafe : Percent.OfAscii Url.isSafeInUserInfo := Url.ofAscii_isPlainBut _
    have hencode := (Percent.encode_cons_eq_ok_iff hsafe
      (Percent.startsEscape_of_ne (by decide) : Percent.startsEscape (.scalar '"' :: quotes n) =
        false)).2 ⟨rfl, e, he, rfl⟩
    refine ⟨_, hencode, ?_⟩
    have hshown : (Percent.shown Url.isSafeInUserInfo (.scalar '"')).length = 3 := by decide
    rw [List.length_append, hshown, hlength]
    omega

theorem split_quotedBase (n : Nat) :
    Url.split (quotedBase n) = ⟨"http", quotes n ++ ("@h" : Text), "/", none, none⟩ := by
  have hgoes : ∀ c ∈ quotes n ++ ("@h" : Text),
      (!(['/', '?', '#'].any fun s => decide (c = CodePoint.scalar s))) = true :=
    List.forall_mem_append.2 ⟨forall_mem_quotes (by decide) n, by decide⟩
  have hscheme : (Url.splitScheme (quotedBase n)).1 = "http" := rfl
  have hrest : Url.cutAuthority (Url.splitScheme (quotedBase n)).2 =
      Url.splitBefore ['/', '?', '#'] (quotes n ++ ("@h" : Text) ++ ("/" : Text)) := rfl
  have hcut : Url.splitBefore ['/', '?', '#'] (quotes n ++ ("@h" : Text) ++ ("/" : Text)) =
      (quotes n ++ ("@h" : Text), ("/" : Text)) := by
    rw [Url.splitBefore, List.takeWhile_append_of_pos hgoes, List.dropWhile_append_of_pos hgoes]
    exact Prod.ext (List.append_nil _) rfl
  rw [Url.split_eq, hscheme, hrest, hcut]
  rfl

theorem splitAuthority_quotes (n : Nat) :
    Url.splitAuthority (quotes n ++ ("@h" : Text)) = (quotes n, ("h" : Text), []) := by
  have hcut : Url.cutLast? (.scalar '@') (quotes n ++ ("@h" : Text)) =
      some (quotes n, ("h" : Text)) :=
    Url.cutLast?_append_cons (quotes n) (by decide : .scalar '@' ∉ ("h" : Text))
  rw [Url.splitAuthority, hcut]
  rfl

/-- The base is one as long as it is spelled in no more characters than a URL may have, however
many its authority is written in. -/
theorem exists_plainBase_quotedBase {n : Nat} (hn : (quotedBase n).length ≤ Url.lengthLimit) :
    ∃ u, PlainBase (quotedBase n) u ∧ 3 * n ≤ u.authority.length ∧ u.readablePath = "/" := by
  obtain ⟨userInfo, hencode, hlength⟩ := exists_encode_quotes n
  have hchars : ∀ P : CodePoint → Prop, P (.scalar '"') → (∀ c ∈ ("http://" : Text), P c) →
      (∀ c ∈ ("@h" : Text), P c) → (∀ c ∈ ("/" : Text), P c) → ∀ c ∈ quotedBase n, P c :=
    fun P hquote hfront hhost hpath => List.forall_mem_append.2 ⟨hfront, List.forall_mem_append.2
      ⟨List.forall_mem_append.2 ⟨forall_mem_quotes hquote n, hhost⟩, hpath⟩⟩
  have hnormal : (Url.split (quotedBase n)).NormalisesTo
      ⟨"http", userInfo, "h", none, "/", none, none⟩ := by
    rw [split_quotedBase]
    constructor
    · rfl
    · rw [splitAuthority_quotes]
      exact hencode
    · rw [splitAuthority_quotes]
      rfl
    · rw [splitAuthority_quotes]
      rfl
    · exact Url.checkPath_of_absolute rfl (List.cons_ne_nil _ _) _
    · rfl
    · exact .none
    · exact .none
  have htext : Url.checkText (quotedBase n) = .ok () :=
    Url.checkText_eq_ok_iff.2 ⟨hn, hchars _ rfl (by decide) (by decide) (by decide)⟩
  refine ⟨⟨"http", userInfo, "h", none, "/", none, none⟩,
    ⟨?_, ?_, .inl rfl, List.cons_ne_nil _ _, rfl, rfl, rfl, ?_⟩, ?_, ?_⟩
  · exact List.all_eq_true.2 (hchars _ rfl (by decide) (by decide) (by decide))
  · exact Url.ofText_eq_ok_iff.2 ⟨htext, hnormal⟩
  · exact (by decide : ∀ c ∈ ("/" : Text), Url.isVerbatim c = true)
  · rw [Url.authority]
    dsimp only
    split_ifs with hnil
    · rw [← hlength, hnil]
      exact Nat.zero_le _
    · simp only [List.length_append]
      omega
  · exact (by decide +kernel : Percent.decode "/" = "/")

/-- A user is not deleted below a base whose authority is short enough as it is spelled, but not as
it is written. -/
theorem long_authority_refused :
    ∃ u, PlainBase (quotedBase 21846) u ∧ Resource.Plain ⟨"user", "7", none, none⟩ ∧
      Asked "DELETE" ⟨"user", "7", none, none⟩ ∧
      (Resource.path u.readablePath "user" "7").length ≤ Url.lengthLimit ∧
      FailsAs .request (build (.ok .default) "DELETE" (.string (quotedBase 21846))
        (some ⟨"user", "7", none, none⟩)).result := by
  have hlength : (quotedBase 21846).length ≤ Url.lengthLimit := by
    simp only [quotedBase, quotes, List.length_append, List.length_replicate]
    decide
  obtain ⟨u, hbase, hauthority, hpath⟩ := exists_plainBase_quotedBase hlength
  have hplain : Resource.Plain ⟨"user", "7", none, none⟩ :=
    ⟨⟨rfl, rfl, nofun⟩, by decide, by decide, by decide⟩
  have hasked : Asked "DELETE" ⟨"user", "7", none, none⟩ := asked_iff.2 ⟨by decide, rfl⟩
  have hfits : ¬ Fits u ⟨"user", "7", none, none⟩ := by
    rintro ⟨hshort, -⟩
    rw [Url.lengthLimit] at hshort
    omega
  have hupper : Text.upper "DELETE" = "DELETE" := by decide
  refine ⟨u, hbase, hplain, hasked, ?_, ?_⟩
  · rw [hpath]
    decide
  · rw [build, result_outcome]
    exact (failsAs_of_not_fits hbase hplain (hupper ▸ hasked) hfits).map _

end Request

end JsonApi
