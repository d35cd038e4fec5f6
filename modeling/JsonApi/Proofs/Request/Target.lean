import JsonApi.Proofs.Request.Stages
import JsonApi.Proofs.Url.Normalise

/-!
# Where requests go

A request that was built goes to the URL of its resource (`Request.addresses_iff`): behind the
segments of the base stand one for the collection and one for the id.  That is so exactly for
resources that are addressable; with slashes or escapes in its type or id, or dots for an id, a
resource is taken for another one, for a collection, or for the base itself.
-/

namespace JsonApi

/-! ### Addresses -/

namespace Url

/-- The path as it is written; a missing one is a slash. -/
def shownPath (u : Url) : Text := if u.path = [] then "/" else u.path

/-- The segments of the path are those of a base, one that stands for the collection of a type, and
one that stands for an id if there is one. -/
def Addresses (base u : Url) (type id : Text) : Prop :=
  ∃ tail, segments u.path = stem base.shownPath ++ tail ∧
    tail.map Percent.decode = Resource.collectionName type :: if id = [] then [] else [id]

/-- The path of a base in normal form: absolute, without dot segments, and without escapes but those
that its characters need. -/
structure PlainPath (u : Url) : Prop where
  absolute : u.readablePath.head? = some (.scalar '/')
  escaped : EscapedAs u.readablePath u.shownPath
  direct : ∀ s ∈ segments u.readablePath, ¬ IsDots s
  unescaped : Percent.holdsEscape u.readablePath = false

end Url

/-- A type and an id that are single segments of a path and stand for themselves in it. -/
structure Resource.Addressable (type id : Text) : Prop where
  type_bare : .scalar '/' ∉ type
  id_bare : .scalar '/' ∉ id
  type_plain : Percent.holdsEscape type = false
  id_plain : Percent.holdsEscape id = false
  id_ne_dots : ¬ Url.IsDots id

namespace Resource

variable {type id : Text}

theorem holdsEscape_collectionName (type : Text) :
    Percent.holdsEscape (collectionName type) = Percent.holdsEscape type :=
  (Percent.holdsEscape_append rfl (by decide) type []).trans (Bool.or_false _)

theorem slash_mem_collectionName : .scalar '/' ∈ collectionName type ↔ .scalar '/' ∈ type := by
  rw [collectionName, List.mem_append]
  exact or_iff_left (by decide)

theorem not_isDots_collectionName (type : Text) : ¬ Url.IsDots (collectionName type) := by
  have hlast : (collectionName type).getLast? = some (.scalar 's') := List.getLast?_concat
  rintro (h | h) <;> rw [h] at hlast <;> revert hlast <;> decide

/-- The segments that a resource has behind those of its base. -/
def named (type id : Text) : List Text :=
  collectionName type :: if id = [] then [] else [id]

theorem forall_mem_named {P : Text → Prop} :
    (∀ s ∈ named type id, P s) ↔ P (collectionName type) ∧ (id ≠ [] → P id) := by
  rw [named, List.forall_mem_cons]
  split_ifs with h <;> simp [h]

theorem addressable_iff : Addressable type id ↔ ∀ s ∈ named type id,
    .scalar '/' ∉ s ∧ Percent.holdsEscape s = false ∧ ¬ Url.IsDots s := by
  rw [forall_mem_named, slash_mem_collectionName, holdsEscape_collectionName]
  constructor
  · intro h
    exact ⟨⟨h.type_bare, h.type_plain, not_isDots_collectionName type⟩,
      fun _ => ⟨h.id_bare, h.id_plain, h.id_ne_dots⟩⟩
  · rintro ⟨⟨htype, hplain, -⟩, hid⟩
    by_cases h : id = []
    · subst h
      exact ⟨htype, List.not_mem_nil, hplain, rfl, by decide⟩
    · exact ⟨htype, (hid h).1, hplain, (hid h).2.1, (hid h).2.2⟩

/-- Without slashes in the type and the id the path has their segments behind those of the base. -/
theorem segments_path_of_bare {base : Text} (hbase : base ≠ []) (htype : .scalar '/' ∉ type)
    (hid : .scalar '/' ∉ id) :
    Url.segments (path base type id) = Url.stem base ++ named type id := by
  rw [segments_path hbase, Url.segments, Url.segments, Text.splitAt_of_not_mem hid,
    Text.splitAt_of_not_mem (slash_mem_collectionName.not.2 htype)]
  rfl

/-- The path of a resource has no dot segments where its base has none. -/
theorem direct_path_of_bare {base : Text} (hbase : base ≠ [])
    (hdirect : ∀ s ∈ Url.segments base, ¬ Url.IsDots s) (htype : .scalar '/' ∉ type)
    (hid : .scalar '/' ∉ id) (hdots : ¬ Url.IsDots id) :
    ∀ s ∈ Url.segments (path base type id), ¬ Url.IsDots s := by
  rw [segments_path_of_bare hbase htype hid]
  exact List.forall_mem_append.2 ⟨fun s hs => hdirect s (Url.mem_segments_of_mem_stem hs),
    forall_mem_named.2 ⟨not_isDots_collectionName _, fun _ => hdots⟩⟩

theorem named_injective {type' id' : Text} (h : named type id = named type' id') :
    type = type' ∧ id = id' := by
  obtain ⟨htype, hid⟩ := List.cons.inj h
  refine ⟨List.append_cancel_right htype, ?_⟩
  split_ifs at hid <;> simp_all

end Resource

namespace Url

variable {base u : Url} {type id : Text}

theorem PlainPath.readablePath_ne_nil (hbase : base.PlainPath) : base.readablePath ≠ [] := by
  intro h
  have habsolute := hbase.absolute
  rw [h] at habsolute
  cases habsolute

/-- The segments of the path that is asked for. -/
theorem segments_asked (hbase : base.PlainPath) (type id : Text) :
    segments (Resource.path base.readablePath type id) = stem base.readablePath ++
      (segments (Resource.collectionName type) ++ if id = [] then [] else segments id) :=
  Resource.segments_path hbase.readablePath_ne_nil type id

theorem segments_normalised (hbase : base.PlainPath) (type id : Text) :
    segments (normalisePath (Resource.path base.readablePath type id)) =
      removeDots [] (segments (Resource.path base.readablePath type id)) := by
  refine (segments_normalisePath (segments_absolute_iff.1 ?_)).1
  obtain ⟨t, ht⟩ := List.head?_eq_some_iff.1 hbase.absolute
  obtain ⟨rest, hrest⟩ := stem_absolute (t := t)
  exact ⟨_, by rw [segments_asked hbase, ht, hrest, List.cons_append]⟩

/-- What is asked for weighs as much as the stem of the base and what the resource adds to it. -/
theorem weight_asked (hbase : base.PlainPath) (type id : Text) :
    weight (segments (Resource.path base.readablePath type id)) =
      weight (stem base.readablePath) + weight (Resource.named type id) := by
  rw [segments_asked hbase, Resource.named]
  split_ifs <;> simp [weight_segments]

variable (hbase : base.PlainPath)
  (hu : EscapedAs (normalisePath (Resource.path base.readablePath type id)) u.path)

include hbase hu

theorem addresses_of_addressable (h : Resource.Addressable type id) : Addresses base u type id := by
  have hnamed := Resource.addressable_iff.1 h
  have hasked := Resource.segments_path_of_bare hbase.readablePath_ne_nil h.type_bare h.id_bare
  have hdirect : ∀ s ∈ stem base.readablePath ++ Resource.named type id, ¬ IsDots s := by
    refine List.forall_mem_append.2 ⟨fun s hs => ?_, fun s hs => (hnamed s hs).2.2⟩
    exact hbase.direct s (mem_segments_of_mem_stem hs)
  -- without dot segments and slashes the path that is asked for is the one that is written
  have hwritten := forall₂_encode_segments hu
  rw [segments_normalised hbase, hasked, removeDots_of_forall hdirect, List.reverse_nil,
    List.nil_append] at hwritten
  have hstem := forall₂_stem hbase.escaped
  have htake := List.forall₂_take (stem base.readablePath).length hwritten
  have hdrop := List.forall₂_drop (stem base.readablePath).length hwritten
  rw [List.take_left] at htake
  rw [List.drop_left] at hdrop
  refine ⟨(segments u.path).drop (stem base.readablePath).length, ?_, ?_⟩
  · rw [← rightUnique_escapedAs.forall₂ htake hstem, List.take_append_drop]
  · exact map_decode_of_forall₂ hdrop fun s hs => (hnamed s hs).2.1

theorem addressable_of_addresses (h : Addresses base u type id) : Resource.Addressable type id := by
  obtain ⟨tail, htail, hdecode⟩ := h
  rw [← Resource.named] at hdecode
  have hweight := weight_asked hbase type id
  have hbare : ∀ s ∈ segments (Resource.path base.readablePath type id), .scalar '/' ∉ s :=
    fun _ => Text.not_mem_of_mem_splitAt
  have hwritten := forall₂_encode_segments hu
  rw [htail, segments_normalised hbase] at hwritten
  generalize segments (Resource.path base.readablePath type id) = asked at hweight hbare hwritten
  -- what was written is the stem of the base, and behind it what is read as the resource
  have hfront := List.forall₂_take_append _ _ _ hwritten
  have hback := List.forall₂_drop_append _ _ _ hwritten
  have hparts := List.take_append_drop (stem base.shownPath).length (removeDots [] asked)
  generalize (removeDots [] asked).take (stem base.shownPath).length = front at hfront hparts
  generalize (removeDots [] asked).drop (stem base.shownPath).length = back at hback hparts
  have hstem : (stem base.shownPath).map Percent.decode = stem base.readablePath :=
    map_decode_of_forall₂ (forall₂_stem hbase.escaped) fun s hs =>
      holdsEscape_segments hbase.unescaped s (mem_segments_of_mem_stem hs)
  have hfront_le := weight_map_decode_le hfront
  have hback_le := weight_map_decode_le hback
  rw [hstem] at hfront_le
  rw [hdecode] at hback_le
  have hremoved : weight front + weight back = weight (removeDots [] asked) := by
    rw [← hparts, weight_append]
  -- it weighs no less than what was asked for, so there were neither dot segments nor escapes
  have hdirect : ∀ s ∈ asked, ¬ IsDots s := by
    intro s hs hdots
    have hlt := weight_removeDots_lt [] ⟨s, hs, hdots⟩
    rw [weight_nil] at hlt
    omega
  have hplain : ∀ s ∈ back, Percent.holdsEscape s = false := by
    refine holdsEscape_of_weight_le hback ?_
    have hle := weight_removeDots_le [] asked
    rw [weight_nil] at hle
    rw [hdecode]
    omega
  obtain rfl : back = Resource.named type id :=
    (map_decode_of_forall₂ hback hplain).symm.trans hdecode
  rw [removeDots_of_forall hdirect, List.reverse_nil, List.nil_append] at hparts
  refine Resource.addressable_iff.2 fun s hs => ?_
  have hs' : s ∈ asked := hparts ▸ List.mem_append_right front hs
  exact ⟨hbare s hs', hplain s hs, hdirect s hs'⟩

end Url

/-! ### What was built -/

namespace Url

variable {t : Text} {base u : Url} {type id : Text}

theorem addresses_iff_addressable (hbase : base.PlainPath)
    (hu : EscapedAs (normalisePath (Resource.path base.readablePath type id)) u.path) :
    Addresses base u type id ↔ Resource.Addressable type id :=
  ⟨addressable_of_addresses hbase hu, addresses_of_addressable hbase hu⟩

theorem eq_of_addresses {type' id' : Text} (h : Addresses base u type id)
    (h' : Addresses base u type' id') : type' = type ∧ id' = id := by
  obtain ⟨tail, htail, hdecode⟩ := h
  obtain ⟨tail', htail', hdecode'⟩ := h'
  obtain rfl := List.append_cancel_left (htail'.symm.trans htail)
  exact Resource.named_injective (hdecode'.symm.trans hdecode)

/-- The path of a URL with a host is absolute, if there is one. -/
theorem absolute_of_ofText (h : ofText t = .ok u) (hhost : u.host ≠ []) :
    (split t).path = [] ∨ (split t).path.head? = some (.scalar '/') := by
  have hstart := (ofText_eq_ok_iff.1 h).2.start
  rw [checkPath] at hstart
  by_contra hne
  rw [not_or] at hne
  rw [if_pos ⟨by simp [hasAuthority, hhost], hne⟩] at hstart
  cases hstart

theorem escapedAs_of_ofText (h : ofText t = .ok u) (hscheme : u.scheme ≠ []) :
    EscapedAs (normalisePath (split t).path) u.path := by
  simpa [hscheme] using (ofText_eq_ok_iff.1 h).2.path

theorem direct_shownPath (h : ofText t = .ok u) (hscheme : u.scheme ≠ []) (hhost : u.host ≠ []) :
    ∀ s ∈ segments u.shownPath, ¬ IsDots s := by
  have hescaped := escapedAs_of_ofText h hscheme
  have hnormal := (segments_normalisePath (absolute_of_ofText h hhost)).1
  unfold shownPath
  split_ifs
  · decide
  · refine (direct_iff_of_escapedAs hescaped).1 fun s hs => ?_
    rw [hnormal] at hs
    rcases mem_removeDots hs with hs | ⟨-, hs⟩
    · cases hs
    · exact hs

theorem exists_shownPath (h : ofText t = .ok u) (hscheme : u.scheme ≠ []) (hhost : u.host ≠ []) :
    ∃ r, u.shownPath = .scalar '/' :: r := by
  have hescaped := escapedAs_of_ofText h hscheme
  unfold shownPath
  split_ifs with hpath
  · exact ⟨[], rfl⟩
  · have hnormal := (segments_normalisePath (absolute_of_ofText h hhost)).2
    rcases segments_absolute_iff.1 hnormal with hnil | hslash
    · rw [hnil] at hescaped
      exact absurd (rightUnique_escapedAs hescaped rfl) hpath
    · obtain ⟨p, hp⟩ := List.head?_eq_some_iff.1 hslash
      rw [hp, EscapedAs] at hescaped
      obtain ⟨d, f, hd, -, hsame⟩ := (encode_append_slash [] p).1 hescaped
      obtain rfl := rightUnique_escapedAs hd rfl
      exact ⟨f, hsame.symm⟩

theorem exists_readablePath (h : ofText t = .ok u) (hscheme : u.scheme ≠ []) (hhost : u.host ≠ []) :
    ∃ r, u.readablePath = .scalar '/' :: r := by
  obtain ⟨r, hr⟩ := exists_shownPath h hscheme hhost
  have hread := decode_slash [] r
  rw [List.nil_append, Percent.decode_nil, List.nil_append, ← hr] at hread
  exact ⟨_, hread⟩

/-- A base that was spelled without escapes in its path has a plain path. -/
theorem plainPath_of_ofText (h : ofText t = .ok u) (hscheme : u.scheme ≠ []) (hhost : u.host ≠ [])
    (hplain : Percent.holdsEscape (normalisePath (split t).path) = false) : u.PlainPath := by
  have hescaped := escapedAs_of_ofText h hscheme
  obtain ⟨hread, hunescaped⟩ : EscapedAs u.readablePath u.shownPath ∧
      Percent.holdsEscape u.readablePath = false := by
    by_cases hpath : u.path = []
    · have hreadable : u.readablePath = "/" := by
        rw [readablePath, if_pos hpath]
        decide +kernel
      rw [hreadable, shownPath, if_pos hpath]
      exact ⟨rfl, rfl⟩
    · have hreadable : u.readablePath = normalisePath (split t).path := by
        rw [readablePath, if_neg hpath]
        exact Percent.decode_of_encode ofAscii_isSafeInPath hescaped hplain
      rw [hreadable, shownPath, if_neg hpath]
      exact ⟨hescaped, hplain⟩
  obtain ⟨r, hr⟩ := exists_readablePath h hscheme hhost
  exact ⟨by rw [hr]; rfl, hread,
    (direct_iff_of_escapedAs hread).2 (direct_shownPath h hscheme hhost), hunescaped⟩

end Url

namespace Request

variable {type id : Text} {q : Request} {url u : Url}

theorem escapedAs_of_resourceUrl (hscheme : u.scheme ≠ [])
    (h : resourceUrl u type id = .ok url) :
    Url.EscapedAs (Url.normalisePath (Resource.path u.readablePath type id)) url.path := by
  have hnormal := Url.normalisesTo_of_withPath (resourceUrl_eq_ok_iff.1 h)
  have hscheme' : url.scheme ≠ [] := by
    rw [← hnormal.scheme, Text.asciiLower]
    simpa [Url.partsWith] using hscheme
  simpa [hscheme', Url.partsWith] using hnormal.path

/-- **A request goes to its resource** exactly when the type and the id are addressable, whatever
the method and the settings are; only a request that fetches or creates has no id in its URL, and
requests for two addressable resources have two URLs. -/
theorem addresses_iff {t : Text}
    (ht : Percent.holdsEscape (Url.normalisePath (Url.split t).path) = false)
    (h : Builds (.string t) type id q) :
    ∃ base, Url.ofText t = .ok base ∧
      (base.Addresses q.url type id ↔ Resource.Addressable type id) ∧
      (id = [] → q.method = "GET" ∨ q.method = "POST") ∧
      ∀ type' id' q', Builds (.string t) type' id' q' → q'.url = q.url →
        Resource.Addressable type id → Resource.Addressable type' id' →
          type' = type ∧ id' = id := by
  obtain ⟨base, hbase, hurl, hmethod⟩ := h.exists_base
  obtain ⟨t', ht', hspelled, hserved, hhost⟩ := exists_of_baseUrl hbase
  obtain rfl := Json.string.inj ht'
  have hscheme := scheme_ne_nil hserved
  have hplain := Url.plainPath_of_ofText hspelled hscheme (host_ne_nil hhost) ht
  have haddresses := Url.addresses_iff_addressable hplain (escapedAs_of_resourceUrl hscheme hurl)
  refine ⟨base, hspelled, haddresses, hmethod, fun type' id' q' h' hsame hgood hgood' => ?_⟩
  obtain ⟨base', hbase', hurl', -⟩ := h'.exists_base
  obtain rfl := Except.ok.inj (hbase'.symm.trans hbase)
  have haddresses' := Url.addresses_iff_addressable hplain (escapedAs_of_resourceUrl hscheme hurl')
  exact Url.eq_of_addresses (haddresses.2 hgood) (hsame ▸ haddresses'.2 hgood')

/-- A request for a user whose id is not ASCII and has a percent sign in it goes to that user. -/
theorem addresses_user :
    Percent.holdsEscape (Url.normalisePath (Url.split "https://example.com/v1/./api/").path) =
        false ∧
      ∃ q, Builds (.string "https://example.com/v1/./api/") "user" "é 5%" q ∧
        ∃ base, Url.ofText "https://example.com/v1/./api/" = .ok base ∧
          base.Addresses q.url "user" "é 5%" := by
  have hbase : Percent.holdsEscape
      (Url.normalisePath (Url.split "https://example.com/v1/./api/").path) = false := by
    decide +kernel
  obtain ⟨p, hp⟩ : ∃ p, (buildGet (.ok .default) (.string "https://example.com/v1/./api/")
      "user" "é 5%").result = .ok p := Except.exists_of_isOk (by decide +kernel)
  obtain ⟨base, hspelled, haddresses, -, -⟩ := addresses_iff hbase (.get hp)
  refine ⟨hbase, p.request, .get hp, base, hspelled, haddresses.2 ?_⟩
  exact ⟨by decide, by decide, by decide, by decide, by decide⟩

/-- Deleting a user whose id is two dots deletes what the base is. -/
theorem delete_above :
    ∃ p base, (build (.ok .default) "DELETE" (.string "http://apiserver/api")
        (some ⟨"user", "..", none, none⟩)).result = .ok p ∧
      Url.ofText "http://apiserver/api" = .ok base ∧ p.request.url = base ∧
      ¬ base.Addresses p.request.url "user" ".." := by
  obtain ⟨base, hbase, hpath⟩ : ∃ base, Url.ofText "http://apiserver/api" = .ok base ∧
      decide (base.path = "/api") = true := Except.exists_of_any (by decide +kernel)
  have hurl : (build (.ok .default) "DELETE" (.string "http://apiserver/api")
      (some ⟨"user", "..", none, none⟩)).result.toOption.map (·.request.url) =
        (Url.ofText "http://apiserver/api").toOption := by
    decide +kernel
  obtain ⟨p, hp⟩ : ∃ p, (build (.ok .default) "DELETE" (.string "http://apiserver/api")
      (some ⟨"user", "..", none, none⟩)).result = .ok p := Except.exists_of_isOk (by decide +kernel)
  rw [hp, hbase] at hurl
  have hsame : p.request.url = base := Option.some.inj hurl
  refine ⟨p, base, hp, hbase, hsame, ?_⟩
  rintro ⟨tail, htail, hdecode⟩
  rw [hsame, Url.shownPath, of_decide_eq_true hpath] at htail
  have hnil : tail = [] := List.self_eq_append_right.1 htail
  rw [hnil] at hdecode
  cases hdecode

end Request

end JsonApi
