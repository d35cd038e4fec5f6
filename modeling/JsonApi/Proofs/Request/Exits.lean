import JsonApi.Proofs.Json.Shown
import JsonApi.Proofs.Request.RoundTrip
import JsonApi.Proofs.Request.Stages
import JsonApi.Proofs.Url.Refusal

/-!
# How building ends

Building keeps to the terms of the API as long as the texts it is given can be written
(`Request.builds_in_terms`): the base and the resource have a form in UTF-8, the media type is
ASCII, the host of the base can be read and put into a header, and a base that is no text can be
shown in a message.  A base that is refused is the first thing to be reported, whatever else is
wrong.
-/

namespace JsonApi

theorem Url.isAscii_hostAndPort {u : Url} (h : Text.IsAscii u.host) : u.hostAndPort.IsAscii := by
  have hport : (portText u.port).IsAscii := by
    refine List.all_eq_true.2 fun c hc => ?_
    cases hu : u.port with
    | none =>
      rw [hu] at hc
      cases hc
    | some n =>
      rw [hu, portText, List.mem_cons] at hc
      rcases hc with rfl | hc
      · rfl
      · rcases Text.mem_ofInt hc with rfl | hc
        · rfl
        · exact Text.isAscii_of_isDigit hc
  rw [hostAndPort_eq, Text.IsAscii, List.all_append, Bool.and_eq_true]
  refine ⟨?_, hport⟩
  unfold bracketed
  split
  · rw [List.all_append, List.all_append, Bool.and_eq_true, Bool.and_eq_true]
    exact ⟨⟨rfl, h⟩, rfl⟩
  · exact h

namespace Request

variable {α : Type} {base : Json} {type id method : Text} {s : Settings} {u url : Url}
  {given : GivenHeaders} {content : Bytes}

/-! ### The base -/

/-- A base whose text has a form in UTF-8, and whose host can be read and written where it is a URL
that requests can go to; a value that is no text holds no integer of too many digits. -/
structure SoundBase (base : Json) : Prop where
  bounded : base.Bounded
  scalar : ∀ t, base = .string t → t.isScalar = true
  readable : ∀ t u, base = .string t → Url.ofText t = .ok u → isServed u.scheme = true →
    ∃ host, u.readableHost = .ok host
  ascii : ∀ u, baseUrl base = .ok u → Text.IsAscii u.host

theorem soundBase_of_ofText {t : Text} (ht : t.isScalar = true) (hspelled : Url.ofText t = .ok u)
    (hreadable : ∃ host, u.readableHost = .ok host) (hascii : Text.IsAscii u.host) :
    SoundBase (.string t) := by
  refine ⟨Json.bounded_string, fun t' h => Json.string.inj h ▸ ht, fun t' u' h hu' _ => ?_,
    fun u' hu' => ?_⟩
  · obtain rfl := Json.string.inj h
    obtain rfl := Except.ok.inj (hspelled.symm.trans hu')
    exact hreadable
  · obtain ⟨t', h, ht', -⟩ := exists_of_baseUrl hu'
    obtain rfl := Json.string.inj h
    obtain rfl := Except.ok.inj (hspelled.symm.trans ht')
    exact hascii

/-- What is no text is sound as a base if it can be shown, because it is refused. -/
theorem soundBase_of_forall_ne (h : ∀ t, base ≠ .string t) (hbounded : base.Bounded) :
    SoundBase base where
  bounded := hbounded
  scalar t ht := absurd ht (h t)
  readable t _ ht := absurd ht (h t)
  ascii u hu := by
    obtain ⟨t, ht, -⟩ := exists_of_baseUrl hu
    exact absurd ht (h t)

theorem failsOnly_refuse {classes : List ErrorClass} (r : Refusal)
    (h : r.error.errorClass ∈ classes) : (refuse r : Except Failure α).FailsOnly
      (Failure.IsOf classes) :=
  Except.failsOnly_error_iff.2 h

theorem failsOnly_refuseValue {v : Json} (hv : v.Bounded) :
    (refuseValue v : Except Failure α).FailsOnly (Failure.IsOf [.request]) := by
  obtain ⟨quoted, hquoted⟩ := (Json.exists_quoted_iff v).2 hv
  rw [refuseValue, hquoted]
  exact failsOnly_refuse _ (List.mem_singleton_self _)

theorem failsOnly_spelledBase {t : Text} (ht : t.isScalar = true) :
    (spelledBase t).FailsOnly (Failure.IsOf [.request]) := by
  have hfaulty := Url.failsOnly_ofText ht
  unfold spelledBase
  split
  · exact Except.failsOnly_ok _
  · exact failsOnly_refuse _ (List.mem_singleton_self _)
  · rename_i e he
    exact (hfaulty _ he).elim

theorem failsOnly_baseOfText {t : Text} (hbase : SoundBase (.string t)) :
    (baseOfText t).FailsOnly (Failure.IsOf [.request]) := by
  refine .bind (failsOnly_spelledBase (hbase.scalar t rfl)) fun u hu => ?_
  split
  · rename_i hserved
    obtain ⟨host, hhost⟩ := hbase.readable t u rfl (spelledBase_eq_ok_iff.1 hu) hserved
    rw [hhost]
    simp only [faulted, Except.ok_mapError, Except.ok_bind]
    split
    · exact failsOnly_refuse _ (List.mem_singleton_self _)
    · exact Except.failsOnly_ok _
  · exact failsOnly_refuse _ (List.mem_singleton_self _)

theorem failsOnly_baseUrl (hbase : SoundBase base) :
    (baseUrl base).FailsOnly (Failure.IsOf [.request]) := by
  cases base with
  | string t => exact failsOnly_baseOfText hbase
  | _ => exact failsOnly_refuseValue hbase.bounded

/-- A base is refused as a request, unless a fault ends everything. -/
theorem failsOnly_baseUrl_within (base : Json) :
    (baseUrl base).FailsOnly (Failure.Within [.request]) := by
  have hrefuse : ∀ (α : Type) (r : Refusal), r.error.errorClass = .request →
      (refuse r : Except Failure α).FailsOnly (Failure.Within [.request]) := fun _ r hr =>
    Except.failsOnly_error_iff.2 (List.mem_singleton.2 hr)
  unfold baseUrl
  split
  · refine .bind ?_ fun u _ => ?_
    · unfold spelledBase
      split
      · exact Except.failsOnly_ok _
      · exact hrefuse _ _ rfl
      · exact Except.failsOnly_error_iff.2 trivial
    · split
      · refine .bind (Except.failsOnly_mapError_iff.2 fun _ _ => trivial) fun host _ => ?_
        split
        · exact hrefuse _ _ rfl
        · exact Except.failsOnly_ok _
      · exact hrefuse _ _ rfl
  · refine .bind (Except.failsOnly_mapError_iff.2 fun _ _ => trivial) fun quoted _ => ?_
    exact hrefuse _ _ rfl

/-! ### The URL -/

/-- A URL in normal form whose host can be read and written. -/
structure Reachable (u : Url) : Prop where
  normal : ∃ p : Url.Parts, p.NormalisesTo u
  readable : ∃ host, u.readableHost = .ok host
  ascii : Text.IsAscii u.host

theorem reachable_of_baseUrl (hbase : SoundBase base) (h : baseUrl base = .ok u) :
    Reachable u := by
  obtain ⟨t, -, hspelled, -, host, hhost, -⟩ := exists_of_baseUrl h
  exact ⟨⟨_, (Url.ofText_eq_ok_iff.1 hspelled).2⟩, ⟨host, hhost⟩, hbase.ascii u h⟩

theorem isScalar_path (u : Url) (htype : type.isScalar = true) (hid : id.isScalar = true) :
    (Resource.path u.readablePath type id).isScalar = true :=
  List.all_eq_true.2 (Resource.forall_mem_path
    (List.all_eq_true.1 (Utf8.isScalar_decodeLenient _)) (List.all_eq_true.1 htype)
    (List.all_eq_true.1 hid) rfl rfl)

theorem failsOnly_resourceUrl (hu : Reachable u) (htype : type.isScalar = true)
    (hid : id.isScalar = true) :
    (resourceUrl u type id).FailsOnly (Failure.IsOf [.request]) := by
  obtain ⟨p, hp⟩ := hu.normal
  have hfaulty := Url.failsOnly_withPath hp (isScalar_path u htype hid)
  unfold resourceUrl
  split
  · exact Except.failsOnly_ok _
  · exact failsOnly_refuse _ (List.mem_singleton_self _)
  · rename_i e he
    exact (hfaulty _ he).elim

theorem reachable_of_resourceUrl (hu : Reachable u) (h : resourceUrl u type id = .ok url) :
    Reachable url := by
  obtain ⟨p, hp⟩ := hu.normal
  have hpath := resourceUrl_eq_ok_iff.1 h
  have hhost := Url.isHost_of_normalisesTo hp
  refine ⟨⟨_, Url.normalisesTo_of_withPath hpath⟩,
    Url.exists_readableHost_of_withPath hhost hpath hu.readable, ?_⟩
  -- the host is normalised a second time, which may put the digits of escapes into lower case
  rcases Url.host_of_withPath hhost hpath with hsame | ⟨hname, hsmall⟩
  · exact hsame ▸ hu.ascii
  · rw [hsmall, Text.IsAscii, Text.all_isAscii_asciiLower]
    exact hname.isAscii

/-! ### The headers -/

theorem exists_hostHeader (hurl : Reachable url) (h : Headers) :
    ∃ fields, hostHeader url h = .ok fields := by
  obtain ⟨host, hhost⟩ := hurl.readable
  obtain ⟨value, hvalue⟩ : ∃ value, Ascii.encode url.hostAndPort = .ok value :=
    ⟨_, Ascii.encode_eq_ok_iff.2 ⟨Url.isAscii_hostAndPort hurl.ascii, rfl⟩⟩
  unfold hostHeader
  rw [hhost, hvalue]
  split
  · exact ⟨_, rfl⟩
  · simp only [Except.ok_mapError, Except.ok_bind]
    split <;> exact ⟨_, rfl⟩

/-- A request is made whenever its headers and its host are ASCII. -/
theorem exists_make (method : Text) (hurl : Reachable url) (hgiven : given.IsAscii)
    (content : Bytes) : ∃ q, make method url given content = .ok q := by
  obtain ⟨h, hh⟩ := Headers.exists_ofPairs_iff.2 hgiven
  obtain ⟨fields, hfields⟩ := exists_hostHeader hurl (withLength content h)
  unfold make
  rw [hh]
  simp only [Except.ok_mapError, Except.ok_bind, hfields]
  exact ⟨_, rfl⟩

theorem failsOnly_make {classes : List ErrorClass} (method : Text) (hurl : Reachable url)
    (hgiven : given.IsAscii) (content : Bytes) :
    (faulted (make method url given content)).FailsOnly (Failure.IsOf classes) := by
  obtain ⟨q, hq⟩ := exists_make method hurl hgiven content
  rw [hq]
  exact Except.failsOnly_ok q

/-! ### The content -/

theorem failsOnly_validate (method : Text) (r : Resource) :
    ((r.validate method).mapError fun v => Failure.api v.error).FailsOnly
      (Failure.IsOf [.request, .specification]) :=
  Except.failsOnly_mapError_iff.2 fun _ _ => List.mem_cons_of_mem _ (List.mem_singleton_self _)

theorem exists_contentOf (method : Text) (s : Settings) {r : Resource} (hr : r.Scalar) :
    ∃ bs, contentOf method r s = .ok bs := by
  unfold contentOf
  split
  · obtain ⟨bs, hbs⟩ :=
      (Document.render_eq_ok_iff (some s.jsonIndent)).2 (Document.encodable_single hr)
    exact ⟨bs, by rw [hbs]; rfl⟩
  · exact ⟨[], rfl⟩

/-! ### What fails -/

theorem isAscii_givenFields (hs : s.mediaType.IsAscii) (content : Bytes) :
    (givenFields s content).IsAscii := by
  have hlength := isAscii_ofNat content.length
  simp only [givenFields, GivenHeaders.IsAscii, List.forall_mem_cons]
  exact ⟨⟨by decide, hs⟩, ⟨by decide, hs⟩, ⟨by decide, hlength⟩, List.forall_mem_nil _⟩

theorem isAscii_accept (hs : s.mediaType.IsAscii) :
    GivenHeaders.IsAscii [(.text "Accept", .text s.mediaType)] := by
  have hname : Text.IsAscii "Accept" := by decide
  exact List.forall_mem_singleton.2 ⟨hname, hs⟩

theorem failsOnly_fetch (hu : Reachable u) (hs : s.mediaType.IsAscii) (htype : type.isScalar = true)
    (hid : id.isScalar = true) : (fetch u type id s).FailsOnly (Failure.IsOf [.request]) := by
  refine .bind (failsOnly_resourceUrl hu htype hid) fun url hurl => ?_
  exact failsOnly_make _ (reachable_of_resourceUrl hu hurl) (isAscii_accept hs) _

theorem failsOnly_send (hu : Reachable u) (hs : s.mediaType.IsAscii) {r : Resource}
    (hr : r.Scalar) : (send u method r s).FailsOnly (Failure.IsOf [.request, .specification]) := by
  refine .bind (failsOnly_validate method r) fun _ _ => ?_
  obtain ⟨content, hcontent⟩ := exists_contentOf method s hr
  rw [hcontent, Except.ok_bind]
  refine .bind ?_ fun url hurl => ?_
  · exact (failsOnly_resourceUrl hu hr.type hr.id).mono fun _ => Failure.IsOf.mono (by decide)
  · exact failsOnly_make _ (reachable_of_resourceUrl hu hurl) (isAscii_givenFields hs content) _

theorem failsOnly_get (hbase : SoundBase base) (hs : s.mediaType.IsAscii)
    (htype : type.isScalar = true) (hid : id.isScalar = true) :
    (get base type id s).FailsOnly (Failure.IsOf [.request]) := by
  rw [get_eq]
  refine .bind (failsOnly_baseUrl hbase) fun u hu => ?_
  split_ifs
  · exact failsOnly_refuse _ (List.mem_singleton_self _)
  · exact failsOnly_fetch (reachable_of_baseUrl hbase hu) hs htype hid

theorem failsOnly_change (hbase : SoundBase base) (hs : s.mediaType.IsAscii) (method : Text)
    {resource : Option Resource} (hresource : ∀ r ∈ resource, r.Scalar) :
    (change method base resource s).FailsOnly (Failure.IsOf [.request, .specification]) := by
  rw [change_eq]
  refine .bind ?_ fun u hu => ?_
  · exact (failsOnly_baseUrl hbase).mono fun _ => Failure.IsOf.mono (by decide)
  · have hrefuse : ∀ r : Refusal, r.error.errorClass = .specification →
        (refuse r : Except Failure Request).FailsOnly
          (Failure.IsOf [.request, .specification]) := fun r hr =>
      failsOnly_refuse r (hr ▸ List.mem_cons_of_mem _ (List.mem_singleton_self _))
    split_ifs
    · exact hrefuse _ rfl
    · exact hrefuse _ rfl
    · cases resource with
      | none => exact hrefuse _ rfl
      | some r => exact failsOnly_send (reachable_of_baseUrl hbase hu) hs (hresource r rfl)

/-! ### What is built -/

/-- A base is accepted, and so is the path of a resource below it. -/
def Accepts (base : Json) (type id : Text) : Prop :=
  ∃ u url, baseUrl base = .ok u ∧ resourceUrl u type id = .ok url

theorem exists_get_iff (hbase : SoundBase base) (hs : s.mediaType.IsAscii) :
    (∃ q, get base type id s = .ok q) ↔ type ≠ [] ∧ Accepts base type id := by
  simp only [get_eq_ok_iff, fetch_eq_ok_iff]
  constructor
  · rintro ⟨q, htype, u, hu, url, hurl, -⟩
    exact ⟨htype, u, url, hu, hurl⟩
  · rintro ⟨htype, u, url, hu, hurl⟩
    have hreachable := reachable_of_resourceUrl (reachable_of_baseUrl hbase hu) hurl
    obtain ⟨q, hq⟩ := exists_make "GET" hreachable (isAscii_accept hs) []
    exact ⟨q, htype, u, hu, url, hurl, hq⟩

theorem exists_change_iff (hbase : SoundBase base) (hs : s.mediaType.IsAscii) (method : Text)
    {resource : Option Resource} (hresource : ∀ r ∈ resource, r.Scalar) :
    (∃ q, change method base resource s = .ok q) ↔
      resourceMethods.contains method.upper = true ∧ ∃ r, resource = some r ∧
        r.validate method.upper = .ok () ∧ Accepts base r.type r.id := by
  simp only [change_eq_ok_iff, send_eq_ok_iff]
  constructor
  · rintro ⟨q, hmethod, r, hr, u, hu, hvalid, content, url, -, hurl, -⟩
    exact ⟨hmethod, r, hr, hvalid, u, url, hu, hurl⟩
  · rintro ⟨hmethod, r, hr, hvalid, u, url, hu, hurl⟩
    have hreachable := reachable_of_resourceUrl (reachable_of_baseUrl hbase hu) hurl
    obtain ⟨content, hcontent⟩ := exists_contentOf method.upper s (hresource r hr)
    obtain ⟨q, hq⟩ := exists_make method.upper hreachable (isAscii_givenFields hs content) content
    exact ⟨q, hmethod, r, hr, u, hu, hvalid, content, url, hcontent, hurl, hq⟩

theorem result_outcome (s : Settings) (build : Settings → Except Failure Request) :
    (outcome (.ok s) build).result = (build s).map fun q => ⟨q, s⟩ := by
  rw [outcome]
  cases build s <;> rfl

/-- **Building ends in the terms of the API** when the base is sound, the media type is ASCII and
the texts of the resource have a form in UTF-8, whatever the method is: what is accepted is built,
and everything else is refused.  A base that is refused is refused with the same error in every
request. -/
theorem builds_in_terms (hbase : SoundBase base) (hs : s.mediaType.IsAscii) :
    (∀ type id : Text, type.isScalar = true → id.isScalar = true →
      (buildGet (.ok s) base type id).result.FailsOnly (Failure.IsOf [.request]) ∧
      ((∃ p, (buildGet (.ok s) base type id).result = .ok p) ↔
        type ≠ [] ∧ Accepts base type id)) ∧
    (∀ (method : Text) (resource : Option Resource), (∀ r ∈ resource, r.Scalar) →
      (build (.ok s) method base resource).result.FailsOnly
        (Failure.IsOf [.request, .specification]) ∧
      ((∃ p, (build (.ok s) method base resource).result = .ok p) ↔
        resourceMethods.contains method.upper = true ∧ ∃ r, resource = some r ∧
          r.validate method.upper = .ok () ∧ Accepts base r.type r.id)) ∧
    ∀ f, baseUrl base = .error f → f.IsOf [.request] ∧
      (∀ type id, (buildGet (.ok s) base type id).result = .error f) ∧
      ∀ method resource, (build (.ok s) method base resource).result = .error f := by
  simp only [buildGet, build, result_outcome, Except.failsOnly_map_iff,
    Except.exists_map_eq_ok_iff]
  refine ⟨fun type id htype hid => ?_, fun method resource hresource => ?_, fun f hf => ?_⟩
  · exact ⟨failsOnly_get hbase hs htype hid, exists_get_iff hbase hs⟩
  · exact ⟨failsOnly_change hbase hs method hresource, exists_change_iff hbase hs method hresource⟩
  · refine ⟨failsOnly_baseUrl hbase f hf, fun type id => ?_, fun method resource => ?_⟩
    · rw [get_eq, hf]
      rfl
    · rw [change_eq, hf]
      rfl

/-- A base with an address for its host is sound, and so is an integer; requests below either end in
the terms of the API whatever the id is. -/
theorem builds_in_terms_below_address :
    SoundBase (.string "https://[::1]:8443/v1") ∧ SoundBase (.int 7) ∧
      Settings.default.mediaType.IsAscii ∧ ∀ id : Text, id.isScalar = true →
        (buildGet (.ok .default) (.string "https://[::1]:8443/v1") "user" id).result.FailsOnly
          (Failure.IsOf [.request]) ∧
        (buildGet (.ok .default) (.int 7) "user" id).result.FailsOnly
          (Failure.IsOf [.request]) := by
  obtain ⟨u, hu, hsound⟩ : ∃ u, Url.ofText "https://[::1]:8443/v1" = .ok u ∧
      (u.readableHost.isOk && u.host.all CodePoint.isAscii) = true :=
    Except.exists_of_any (by decide +kernel)
  obtain ⟨hreadable, hascii⟩ := Bool.and_eq_true_iff.1 hsound
  have hbase : SoundBase (.string "https://[::1]:8443/v1") :=
    soundBase_of_ofText rfl hu (Except.exists_of_isOk hreadable) hascii
  have hbounded : (7 : Int).natAbs < 10 ^ Json.digitLimit :=
    Nat.lt_of_lt_of_le (by decide : 7 < 10 ^ 1) (Nat.pow_le_pow_right (by decide) (by decide))
  have hint : SoundBase (.int 7) := soundBase_of_forall_ne nofun (Json.bounded_int.2 hbounded)
  have hmedia : Settings.default.mediaType.IsAscii := by decide
  refine ⟨hbase, hint, hmedia, fun id hid => ⟨?_, ?_⟩⟩
  · exact ((builds_in_terms hbase hmedia).1 "user" id rfl hid).1
  · exact ((builds_in_terms hint hmedia).1 "user" id rfl hid).1

/-- Not reported in the terms of the API are: a host that is no name when it is read, a media type
that is not ASCII, a half of a surrogate pair in a base, an id or a relationship, the scope of an
address that is not ASCII, and an integer of too many digits for a base. -/
theorem builds_otherwise :
    ¬ (buildGet (.ok .default) (.string "http://xn--e28h.example/") "user" []).result.FailsOnly
        Failure.IsReported ∧
      ¬ (buildGet (.ok { Settings.default with mediaType := "café/x" })
          (.string "http://apiserver/") "user" []).result.FailsOnly Failure.IsReported ∧
      ¬ (buildGet (.ok .default) (.string (("http://apiserver/" : Text) ++ [.surrogate 0])) "user"
          []).result.FailsOnly Failure.IsReported ∧
      ¬ (buildGet (.ok .default) (.string "http://apiserver/") "user"
          [.surrogate 0]).result.FailsOnly Failure.IsReported ∧
      ¬ (build (.ok .default) "POST" (.string "http://apiserver/") (some ⟨"user", [], none,
          some (.ofPairs [([.surrogate 0], ⟨.toOne none⟩)])⟩)).result.FailsOnly
            Failure.IsReported ∧
      ¬ (buildGet (.ok .default) (.string "http://[fe80::1%é]/") "user" []).result.FailsOnly
          Failure.IsReported ∧
      ¬ (buildGet (.ok .default) (.int ((10 ^ 4300 : Nat) : Int)) "user" []).result.FailsOnly
          Failure.IsReported := by
  refine ⟨?_, ?_, ?_, ?_, ?_, ?_, ?_⟩ <;> decide +kernel

end Request

end JsonApi
