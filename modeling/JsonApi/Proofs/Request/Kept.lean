import JsonApi.Proofs.Request.Exits
import JsonApi.Proofs.Request.Stable

/-!
# Bases that are kept

A request for a resource of plain names is built below a base exactly as it is written if the base
is stable and its host is in ASCII (`Request.base_kept_iff`).  Other bases are read and written
anew on the way, or the request is refused.
-/

namespace JsonApi

namespace Request

variable {base : Json} {type id : Text} {s : Settings} {q : Request} {u url : Url}

theorem subset_hostAndPort (u : Url) : u.host ⊆ u.hostAndPort := by
  rw [Url.hostAndPort_eq, Url.bracketed]
  refine List.Subset.trans ?_ (List.subset_append_left _ _)
  split_ifs
  · exact List.Subset.trans (List.subset_append_right _ _) (List.subset_append_left _ _)
  · exact List.Subset.refl _

/-- A request that names no host itself gets one that is in ASCII. -/
theorem isAscii_host_of_hostHeader {given fields : Headers}
    (hreadable : ∃ name, url.readableHost = .ok name ∧ name ≠ [])
    (hgiven : given.has "host" = false) (h : hostHeader url given = .ok fields) :
    Text.IsAscii url.host := by
  obtain ⟨name, hname, hne⟩ := hreadable
  rw [hostHeader, hgiven, if_neg Bool.false_ne_true, hname, Except.ok_mapError, Except.ok_bind,
    if_neg hne] at h
  obtain ⟨value, hvalue, -⟩ := Except.bind_eq_ok_iff.1 h
  have hascii := (Ascii.encode_eq_ok_iff.1 (Except.mapError_eq_ok_iff.1 hvalue)).1
  exact List.all_eq_true.2 fun c hc => List.all_eq_true.1 hascii c (subset_hostAndPort url hc)

theorem isAscii_host_of_make {mediaType : Text} (hs : mediaType.IsAscii)
    (hreadable : ∃ name, url.readableHost = .ok name ∧ name ≠ [])
    (h : make "GET" url [(.text "Accept", .text mediaType)] [] = .ok q) :
    Text.IsAscii url.host := by
  have hgiven : Headers.ofPairs [(.text "Accept", .text mediaType)] =
      .ok [⟨Headers.ascii "Accept", Headers.ascii mediaType⟩] := by
    have hvalue := Ascii.encode_eq_ok_iff.2 ⟨hs, rfl⟩
    simp only [Headers.ofPairs, List.mapM_cons, List.mapM_nil, FieldText.encode, hvalue]
    rfl
  rw [make, hgiven, Except.ok_mapError, Except.ok_bind] at h
  obtain ⟨fields, hfields, -⟩ := Except.bind_eq_ok_iff.1 h
  exact isAscii_host_of_hostHeader hreadable rfl hfields

/-- **The base is kept as it is written** exactly if it is stable and its host is in ASCII: then the
request is built, and its URL has the scheme, the authority and the query of the base, and the path
of the base with the resource behind it. -/
theorem base_kept_iff (hs : s.mediaType.IsAscii) (hu : baseUrl base = .ok u) (htype_ne : type ≠ [])
    (htype : ∀ c ∈ type, Percent.isUnreserved c = true)
    (hid : ∀ c ∈ id, Percent.isUnreserved c = true) (hdots : ¬ Url.IsDots id)
    (hlength : (u.below type id).text.length ≤ Url.lengthLimit) :
    (∃ p, (buildGet (.ok s) base type id).result = .ok p ∧
      p.request.url.Matches (u.below type id)) ↔ u.Stable ∧ Text.IsAscii u.host := by
  obtain ⟨t, -, hspelled, hserved, hreadable⟩ := exists_of_baseUrl hu
  have hscheme := scheme_ne_nil hserved
  have hhost := host_ne_nil hreadable
  simp only [buildGet, result_outcome]
  constructor
  · rintro ⟨p, hp, hkept⟩
    obtain ⟨q, hq, rfl⟩ := Except.map_eq_ok_iff.1 hp
    obtain ⟨-, u', hu', hfetch⟩ := get_eq_ok_iff.1 hq
    obtain rfl := Except.ok.inj (hu.symm.trans hu')
    obtain ⟨url, hurl, hmake⟩ := fetch_eq_ok_iff.1 hfetch
    obtain ⟨-, rfl⟩ := url_of_make hmake
    have hpath := resourceUrl_eq_ok_iff.1 hurl
    have hsame := Url.host_eq_of_withPath hspelled hpath hkept.authority
    refine ⟨Url.stable_of_kept hspelled hscheme hhost htype hid hpath hkept, ?_⟩
    rw [← hsame]
    exact isAscii_host_of_make hs (by rwa [Url.readableHost, hsame]) hmake
  · rintro ⟨hstable, hascii⟩
    have hurl := resourceUrl_eq_ok_iff.2 (Url.kept_of_stable hspelled hscheme hhost htype hid
      (check_of_isServed hserved) hstable hdots hlength)
    obtain ⟨name, hname, -⟩ := hreadable
    have hreachable : Reachable (u.below type id) :=
      ⟨⟨_, Url.normalisesTo_below hspelled hscheme hhost htype hid hstable hdots⟩, ⟨name, hname⟩,
        hascii⟩
    obtain ⟨q, hq⟩ := exists_make "GET" hreachable (isAscii_accept hs) []
    have hget : get base type id s = .ok q :=
      get_eq_ok_iff.2 ⟨htype_ne, u, hu, fetch_eq_ok_iff.2 ⟨_, hurl, hq⟩⟩
    refine ⟨⟨q, s⟩, by rw [hget, Except.ok_map], ?_⟩
    rw [(url_of_make hq).2]
    exact ⟨rfl, rfl, rfl, rfl⟩

/-- Below a base with an escaped blank, a port and a query a user is fetched, and all of them are
kept. -/
theorem base_kept_blank :
    Settings.default.mediaType.IsAscii ∧ ∃ u,
      baseUrl (.string "http://apiserver:8080/a%20b/?x=%22") = .ok u ∧
        (u.below "user" "7").text = "http://apiserver:8080/a%20b/users/7?x=%22" ∧
        ∃ p, (buildGet (.ok .default) (.string "http://apiserver:8080/a%20b/?x=%22") "user"
          "7").result = .ok p ∧ p.request.url.Matches (u.below "user" "7") := by
  have hmedia : Settings.default.mediaType.IsAscii := by decide
  obtain ⟨u, hu, hparts⟩ : ∃ u, baseUrl (.string "http://apiserver:8080/a%20b/?x=%22") = .ok u ∧
      decide (u = ⟨"http", [], "apiserver", some 8080, "/a%20b/", some "x=%22", none⟩) = true :=
    Except.exists_of_any (by decide +kernel)
  obtain rfl := of_decide_eq_true hparts
  have hread : Url.readablePath ⟨"http", [], "apiserver", some 8080, "/a%20b/", some "x=%22",
      none⟩ = "/a b/" := by
    decide +kernel
  have hstable :
      Url.Stable ⟨"http", [], "apiserver", some 8080, "/a%20b/", some "x=%22", none⟩ := by
    constructor
    · exact ⟨.inl rfl, fun h => absurd h (by decide)⟩
    · rintro n ⟨⟩
      decide
    · rw [hread]
      rfl
    · rw [hread]
      decide
  refine ⟨hmedia, _, hu, rfl, ?_⟩
  exact (base_kept_iff hmedia hu (by decide) (by decide) (by decide) (by decide) (by decide)).2
    ⟨hstable, rfl⟩

/-- An escaped slash in a base becomes a slash of the path, and below a base with an escaped
question mark no request is built. -/
theorem base_read_anew :
    (∃ u p, baseUrl (.string "http://apiserver/a%2Fb") = .ok u ∧
      (buildGet (.ok .default) (.string "http://apiserver/a%2Fb") "user" []).result = .ok p ∧
      (u.below "user" []).text = "http://apiserver/a%2Fb/users" ∧
      p.request.url.text = "http://apiserver/a/b/users" ∧
      ¬ p.request.url.Matches (u.below "user" [])) ∧
    ∃ u, baseUrl (.string "http://apiserver/a%3Fb") = .ok u ∧
      ¬ ∃ p, (buildGet (.ok .default) (.string "http://apiserver/a%3Fb") "user" []).result =
        .ok p := by
  constructor
  · obtain ⟨u, hu, hparts⟩ : ∃ u, baseUrl (.string "http://apiserver/a%2Fb") = .ok u ∧
        decide (u = ⟨"http", [], "apiserver", none, "/a%2Fb", none, none⟩) = true :=
      Except.exists_of_any (by decide +kernel)
    obtain ⟨p, hp, hparts'⟩ : ∃ p, (buildGet (.ok .default) (.string "http://apiserver/a%2Fb")
        "user" []).result = .ok p ∧
          decide (p.request.url = ⟨"http", [], "apiserver", none, "/a/b/users", none, none⟩) =
            true := Except.exists_of_any (by decide +kernel)
    obtain rfl := of_decide_eq_true hparts
    have hurl := of_decide_eq_true hparts'
    refine ⟨_, p, hu, hp, rfl, by rw [hurl]; rfl, fun h => ?_⟩
    have hpath := h.path
    rw [hurl] at hpath
    exact absurd hpath (by decide)
  · obtain ⟨u, hu⟩ : ∃ u, baseUrl (.string "http://apiserver/a%3Fb") = .ok u :=
      Except.exists_of_isOk (by decide +kernel)
    have hrefused : (buildGet (.ok .default) (.string "http://apiserver/a%3Fb") "user"
        []).result.isOk = false := by
      decide +kernel
    refine ⟨u, hu, fun ⟨p, hp⟩ => ?_⟩
    rw [hp] at hrefused
    cases hrefused

end Request

end JsonApi
