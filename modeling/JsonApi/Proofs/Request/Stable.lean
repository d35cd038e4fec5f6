import JsonApi.Proofs.Request.Target
import JsonApi.Proofs.Url.Moved

/-!
# Stable URLs

The path of a base is read before a resource is put behind it, and what comes of that is written
again, together with everything else that the base has.  What is kept that way is stable
(`Url.stable_of_kept`): its path has the escapes that it needs and no other ones, and its host and
its port have nothing left to normalise.  A stable base is kept in turn, as long as the URL is
short enough (`Url.kept_of_stable`).
-/

namespace JsonApi

namespace Url

/-- A path without the slash at its end. -/
def front (path : Text) : Text :=
  if path.getLast? = some (.scalar '/') then path.dropLast else path

end Url

/-- The path of a resource, or of its collection when there is no id, from its base on. -/
def Resource.relative (type id : Text) : Text :=
  type ++ ("s" : Text) ++ if id = [] then [] else .scalar '/' :: id

namespace Url

/-- The URL of a resource below a base that is kept as it is written. -/
def below (u : Url) (type id : Text) : Url :=
  { u with path := front u.path ++ .scalar '/' :: Resource.relative type id }

/-- Two URLs have one scheme, one authority, one path and one query. -/
structure Matches (u v : Url) : Prop where
  scheme : u.scheme = v.scheme
  authority : u.authority = v.authority
  path : u.path = v.path
  query : u.query = v.query

/-- A host that is its own normal form: there are no capitals in its escapes, and if it looks like
an address of version 4 it is one. -/
structure SettledHost (host : Text) : Prop where
  small : host.asciiLower = host ∨ (Address.v6? host).isSome = true
  address : looksLikeV4 host = true → (Address.v4? host).isSome = true

/-- A URL that comes out as it is when what is read from it is written again. -/
structure Stable (u : Url) : Prop where
  host : SettledHost u.host
  port : ∀ n ∈ u.port, defaultPort? u.scheme ≠ some n
  /-- The path has those escapes that what it is read as needs, and no other ones. -/
  path : EscapedAs u.readablePath u.shownPath
  inner : ∀ c ∈ u.readablePath, isControl c = false ∧ c ≠ .scalar '?' ∧ c ≠ .scalar '#'

variable {p e r path t host type id : Text} {u v : Url}

/-! ### Hosts -/

/-- A host stays as it is when it is normalised again, exactly if it is settled. -/
theorem normaliseHost_bracketed_eq_iff (hhost : IsHost host) :
    normaliseHost (bracketed host) = .ok host ↔ SettledHost host := by
  rcases hhost with hname | ⟨hv6, -⟩
  · have hv6 : ¬ (Address.v6? host).isSome = true := fun h =>
      hname.not_mem rfl (colon_mem_of_v6? h)
    rw [hname.bracketed_eq]
    by_cases hlooks : looksLikeV4 host = true
    · have hsmall : host.asciiLower = host := Text.asciiLower_of_small fun c hc => by
        rcases mem_of_looksLikeV4 hlooks hc with rfl | hdigit
        · rfl
        · rw [CodePoint.isCapital_eq_false_iff]
          have := Text.toNat_of_isDigit hdigit
          omega
      rw [normaliseHost, if_neg (ne_nil_of_looksLikeV4 hlooks), if_pos hlooks]
      constructor
      · intro h
        refine ⟨.inl hsmall, fun _ => ?_⟩
        by_contra hv4
        rw [if_neg hv4] at h
        cases h
      · intro h
        rw [if_pos (h.address hlooks)]
    · rw [hname.normaliseHost_eq (Bool.eq_false_iff.2 hlooks), Except.ok.injEq]
      exact ⟨fun h => ⟨.inl h, fun h' => absurd h' hlooks⟩, fun h => h.small.resolve_right hv6⟩
  · have hlooks : looksLikeV4 host = false :=
      looksLikeV4_of_mem (colon_mem_of_v6? hv6) (by decide) rfl
    refine iff_of_true (normaliseHost_of_v6 hv6) ⟨.inr hv6, fun h => ?_⟩
    rw [hlooks] at h
    cases h

theorem bracketed_injective (h : bracketed p = bracketed t) : p = t := by
  have hcolon : ∀ s, .scalar ':' ∈ bracketed s ↔ .scalar ':' ∈ s := fun s => by
    unfold bracketed
    split_ifs with hs
    · simp [List.contains_iff_mem.1 hs]
    · rfl
  have hiff : .scalar ':' ∈ p ↔ .scalar ':' ∈ t := by rw [← hcolon p, h, hcolon]
  unfold bracketed at h
  simp only [List.contains_iff_mem, hiff] at h
  split_ifs at h
  · exact List.append_cancel_left (List.append_cancel_right h)
  · exact h

/-- The host can be told from the authority. -/
theorem host_eq_of_authority (hu : IsHost u.host) (hv : IsHost v.host)
    (h : u.authority = v.authority) : u.host = v.host := by
  have hsplit := splitAuthority_authority hu
  rw [h, splitAuthority_authority hv] at hsplit
  exact (bracketed_injective (Prod.mk.inj (Prod.mk.inj hsplit).2).1).symm

theorem host_eq_of_withPath (hu : ofText t = .ok u) (hv : u.withPath path = .ok v)
    (h : v.authority = u.authority) : v.host = u.host :=
  host_eq_of_authority (isHost_of_normalisesTo (normalisesTo_of_withPath hv))
    (isHost_of_normalisesTo (ofText_eq_ok_iff.1 hu).2) h

/-- A port that goes without saying is missed in the authority. -/
theorem port_ne_of_authority (hu : IsHost u.host) (hv : IsHost v.host)
    (hport : v.port = u.port.filter fun n => defaultPort? u.scheme ≠ some n)
    (h : u.authority = v.authority) : ∀ n ∈ u.port, defaultPort? u.scheme ≠ some n := by
  intro n hn hdefault
  have hsplit := splitAuthority_authority hu
  rw [h, splitAuthority_authority hv, hport, Option.mem_def.1 hn] at hsplit
  have hsame := (Prod.mk.inj (Prod.mk.inj hsplit).2).2
  rw [Option.filter_some, hdefault, if_neg (by simp)] at hsame
  exact Text.ofInt_ne_nil n hsame.symm

/-! ### Paths without their last slash -/

theorem front_concat (t : Text) : front (t ++ [.scalar '/']) = t := by
  rw [front, if_pos List.getLast?_concat, List.dropLast_concat]

theorem front_shownPath (u : Url) : front u.shownPath = front u.path := by
  unfold shownPath
  split_ifs with hpath
  · rw [hpath]
    rfl
  · rfl

theorem front_cases (p : Text) : (∃ t, p = t ++ [.scalar '/']) ∨
    p.getLast? ≠ some (.scalar '/') ∧ front p = p := by
  by_cases h : p.getLast? = some (.scalar '/')
  · exact .inl (List.getLast?_eq_some_iff.1 h)
  · exact .inr ⟨h, if_neg h⟩

theorem decode_concat (t : Text) : Percent.decode (t ++ [.scalar '/']) =
    Percent.decode t ++ [.scalar '/'] := by
  rw [decode_slash, Percent.decode_nil]

/-- What is read behind an escaped slash at the end of a path is one character shorter. -/
theorem front_decode (e : Text) : front (Percent.decode e) = Percent.decode (front e) ∨
    (front (Percent.decode e)).length < (Percent.decode (front e)).length := by
  rcases front_cases e with ⟨e, rfl⟩ | ⟨-, he⟩
  · rw [decode_concat, front_concat, front_concat]
    exact .inl rfl
  · rw [he]
    rcases front_cases (Percent.decode e) with ⟨p, hp⟩ | ⟨-, hp⟩
    · rw [hp, front_concat, List.length_append, List.length_singleton]
      exact .inr (Nat.lt_succ_self _)
    · exact .inl hp

/-- A rest that is written as it is makes no difference to what is in front of its slash. -/
theorem escapedAs_append_iff (ht : EscapedAs t t) :
    EscapedAs (p ++ .scalar '/' :: t) (e ++ .scalar '/' :: t) ↔ EscapedAs p e := by
  rw [EscapedAs, encode_append_slash]
  constructor
  · rintro ⟨d, f, hd, hf, hsame⟩
    obtain rfl := rightUnique_escapedAs hf ht
    exact List.append_cancel_right hsame ▸ hd
  · exact fun h => ⟨e, t, h, ht, rfl⟩

theorem escapedAs_concat_iff :
    EscapedAs (p ++ [.scalar '/']) (e ++ [.scalar '/']) ↔ EscapedAs p e :=
  escapedAs_append_iff rfl

/-- A path is written as it is read if what is in front of its last slash is. -/
theorem escapedAs_decode_iff (e : Text) : EscapedAs (Percent.decode e) e ↔
    front (Percent.decode e) = Percent.decode (front e) ∧
      EscapedAs (Percent.decode (front e)) (front e) := by
  rcases front_cases e with ⟨e, rfl⟩ | ⟨hlast, he⟩
  · rw [decode_concat, front_concat, front_concat, and_iff_right rfl, escapedAs_concat_iff]
  · rw [he]
    refine ⟨fun h => ⟨?_, h⟩, And.right⟩
    rcases front_cases (Percent.decode e) with ⟨p, hp⟩ | ⟨-, hp⟩
    -- a slash at the end of what is read is written as one
    · rw [hp, EscapedAs, encode_append_slash] at h
      obtain ⟨d, f, -, hf, rfl⟩ := h
      obtain rfl := rightUnique_escapedAs hf rfl
      exact absurd List.getLast?_concat hlast
    · exact hp

/-! ### Paths of resources -/

theorem path_eq_front (base type id : Text) :
    Resource.path base type id = front base ++ .scalar '/' :: Resource.relative type id := by
  have hbase : (if base.getLast? = some (.scalar '/') then base else base ++ ("/" : Text)) =
      front base ++ [.scalar '/'] := by
    rcases front_cases base with ⟨t, rfl⟩ | ⟨hlast, hfront⟩
    · rw [if_pos List.getLast?_concat, front_concat]
    · rw [if_neg hlast, hfront]
      rfl
  have hslash : ("/" : Text) = [.scalar '/'] := rfl
  simp only [Resource.path, hbase, Resource.relative, Resource.collectionName]
  split_ifs <;> simp [hslash]

theorem subset_path (base type id : Text) : base ⊆ Resource.path base type id := by
  rw [path_eq_front]
  rcases front_cases base with ⟨t, rfl⟩ | ⟨-, hfront⟩
  · rw [front_concat]
    exact ((List.singleton_sublist.2 List.mem_cons_self).append_left t).subset
  · rw [hfront]
    exact List.subset_append_left _ _

theorem length_normalisePath_le (h : path.head? = some (.scalar '/')) :
    (normalisePath path).length ≤ path.length := by
  have hle := weight_removeDots_le [] (segments path)
  rw [← (segments_normalisePath (.inr h)).1, weight_segments, weight_segments, weight_nil] at hle
  omega

/-! ### Paths that are kept -/

section

variable (hr : ∀ c ∈ r, isVerbatim c = true)

include hr

theorem decode_of_isVerbatim : Percent.decode r = r := by
  have hpercent : .scalar '%' ∉ r := fun hmem => Bool.noConfusion (hr _ hmem)
  exact Percent.decode_of_encode ofAscii_isSafeInPath (escapedAs_of_isVerbatim hr)
    (Percent.holdsEscape_of_not_mem hpercent)

/-- A path that is kept in front of what is put behind it is written as it is read. -/
theorem escapedAs_of_kept
    (habsolute : (front (Percent.decode e) ++ .scalar '/' :: r).head? = some (.scalar '/'))
    (h : EscapedAs (normalisePath (front (Percent.decode e) ++ .scalar '/' :: r))
      (front e ++ .scalar '/' :: r)) : EscapedAs (Percent.decode e) e := by
  have hread : Percent.decode (front e ++ .scalar '/' :: r) =
      Percent.decode (front e) ++ .scalar '/' :: r := by
    rw [decode_slash, decode_of_isVerbatim hr]
  -- what was written is read as no more than was asked for, and as less if there are escapes
  have hlength := Percent.length_decode_add_le ofAscii_isSafeInPath h
  have hnormal := length_normalisePath_le habsolute
  rw [hread] at hlength
  simp only [List.length_append] at hlength hnormal
  have hfront : front (Percent.decode e) = Percent.decode (front e) :=
    (front_decode e).resolve_right fun hlt => by omega
  have hplain : Percent.holdsEscape (normalisePath (front (Percent.decode e) ++
      .scalar '/' :: r)) = false := by
    have hsame := congrArg List.length hfront
    rw [← Bool.toNat_eq_zero]
    omega
  have hasked := Percent.decode_of_encode ofAscii_isSafeInPath h hplain
  rw [← hasked, hread] at h
  exact (escapedAs_decode_iff e).2 ⟨hfront, (escapedAs_append_iff (escapedAs_of_isVerbatim hr)).1 h⟩

/-- A path that is written as it is read is kept in front of what is put behind it. -/
theorem kept_of_escapedAs (h : EscapedAs (Percent.decode e) e) :
    EscapedAs (front (Percent.decode e) ++ .scalar '/' :: r) (front e ++ .scalar '/' :: r) := by
  obtain ⟨hfront, hescaped⟩ := (escapedAs_decode_iff e).1 h
  rw [hfront]
  exact (escapedAs_append_iff (escapedAs_of_isVerbatim hr)).2 hescaped

end

/-! ### Components -/

theorem length_le_text (u : Url) : u.authority.length ≤ u.text.length ∧
    u.path.length ≤ u.text.length ∧ (∀ q ∈ u.query, q.length ≤ u.text.length) ∧
      ∀ f ∈ u.fragment, f.length ≤ u.text.length := by
  have hauthority : u.authority.length ≤
      (if u.authority = [] then [] else ("//" : Text) ++ u.authority).length := by
    split_ifs with h
    · rw [h]
    · rw [List.length_append]
      exact Nat.le_add_left _ _
  rw [text]
  simp only [List.length_append]
  refine ⟨by omega, by omega, fun q hq => ?_, fun f hf => ?_⟩
  · rw [Option.mem_def.1 hq]
    simp only [List.length_cons]
    omega
  · rw [Option.mem_def.1 hf]
    simp only [List.length_cons]
    omega

section

variable {isSafe : CodePoint → Bool} {excluded : List Char} {s : Option Text} {c : CodePoint}

theorem isControl_of_isUnreserved (h : Percent.isUnreserved c = true) : isControl c = false :=
  (isInner_iff.1 (isInner_of_plain (by rw [h]; rfl))).1

/-- No control character is written. -/
theorem isControl_of_mem_encode (h : Percent.encode (isPlainBut excluded) t = .ok e) (hc : c ∈ e) :
    isControl c = false := by
  rcases Percent.mem_encode (ofAscii_isPlainBut _) h hc with rfl | hdigit | ⟨-, hplain⟩
  · rfl
  · exact isControl_of_isUnreserved (Percent.isUnreserved_of_hexDigit hdigit)
  · rcases Bool.or_eq_true_iff.1 hplain with hc | hc
    · exact isControl_of_isUnreserved hc
    · cases c with
      | surrogate => cases hc
      | scalar c =>
        simp only [isPlainBut, Bool.and_eq_true, decide_eq_true_eq] at hc
        rw [isControl, CodePoint.toNat, Bool.or_eq_false_iff, decide_eq_false_iff_not,
          beq_eq_false_iff_ne]
        omega

theorem query_check (h : EscapedWhere isSafeInQuery s u.query)
    (hlength : ∀ q ∈ u.query, q.length ≤ lengthLimit) :
    u.query.elim (.ok ()) Component.query.check = .ok () := by
  cases hquery : u.query with
  | none => rfl
  | some q =>
    rw [hquery] at h hlength
    cases h with
    | some h =>
      have hsharp : .scalar '#' ∉ q := fun hmem => by
        rcases Percent.mem_encode (ofAscii_isPlainBut _) h hmem with hc | hc | ⟨-, hc⟩
        · cases hc
        · cases hc
        · revert hc
          decide
      refine Component.check_eq_ok_iff.2 ⟨hlength q rfl, fun c => isControl_of_mem_encode h, ?_⟩
      simpa [Component.admits] using hsharp

theorem fragment_check (h : EscapedWhere isSafeInFragment s u.fragment)
    (hlength : ∀ f ∈ u.fragment, f.length ≤ lengthLimit) :
    u.fragment.elim (.ok ()) Component.fragment.check = .ok () := by
  cases hfragment : u.fragment with
  | none => rfl
  | some f =>
    rw [hfragment] at h hlength
    cases h with
    | some h =>
      exact Component.check_eq_ok_iff.2 ⟨hlength f rfl, fun c => isControl_of_mem_encode h, rfl⟩

end

/-! ### URLs that are kept -/

section

variable (htype : ∀ c ∈ type, Percent.isUnreserved c = true)
  (hid : ∀ c ∈ id, Percent.isUnreserved c = true)

include htype hid

theorem isVerbatim_relative : ∀ c ∈ Resource.relative type id, isVerbatim c = true := by
  have hplain : ∀ t : Text, (∀ c ∈ t, Percent.isUnreserved c = true) →
      ∀ c ∈ t, isVerbatim c = true := fun t ht c hc => isVerbatim_iff.2 (.inl (ht c hc))
  refine List.forall_mem_append.2 ⟨List.forall_mem_append.2 ⟨hplain type htype, by decide⟩, ?_⟩
  split_ifs
  · exact List.forall_mem_nil _
  · exact List.forall_mem_cons.2 ⟨rfl, hplain id hid⟩

theorem escapedAs_below (hstable : u.Stable) :
    EscapedAs (Resource.path u.readablePath type id) (u.below type id).path := by
  rw [below, ← front_shownPath, path_eq_front]
  exact kept_of_escapedAs (isVerbatim_relative htype hid) hstable.path

theorem check_below (hu : ofText t = .ok u) (hscheme : Component.scheme.check u.scheme = .ok ())
    (hstable : u.Stable) (hlength : (u.below type id).text.length ≤ lengthLimit) :
    (u.partsWith (Resource.path u.readablePath type id)).check = .ok () := by
  obtain ⟨htext, hnormal⟩ := ofText_eq_ok_iff.1 hu
  obtain ⟨hauthority, hpath, hquery, hfragment⟩ := length_le_text (u.below type id)
  have hinner := isInner_of_mem_authority hnormal
    (isInner_of_mem_split (checkText_eq_ok_iff.1 htext).2)
  -- what is asked for is no longer than what is written
  have hshort := Percent.length_le_of_encode ofAscii_isSafeInPath
    (escapedAs_below htype hid hstable)
  have hfits : ∀ s : Text, (∀ c ∈ s, Percent.isUnreserved c = true) → ∀ c ∈ s,
      isControl c = false ∧ (c = .scalar '?' || c = .scalar '#') = false :=
    fun s hs c hc => fits_of_isVerbatim (isVerbatim_iff.2 (.inl (hs c hc)))
  have hbase : ∀ c ∈ u.readablePath,
      isControl c = false ∧ (c = .scalar '?' || c = .scalar '#') = false := fun c hc => by
    obtain ⟨hcontrol, hquestion, hsharp⟩ := hstable.inner c hc
    simp [hcontrol, hquestion, hsharp]
  refine Parts.check_eq_ok_iff.2 ⟨hscheme, ?_, ?_, ?_, ?_⟩
  · exact authority_check_eq_ok_iff.2 ⟨hauthority.trans hlength, hinner⟩
  · exact path_check_eq_ok_iff.2 ⟨hshort.trans (hpath.trans hlength), Resource.forall_mem_path
      hbase (hfits type htype) (hfits id hid) (fits_of_isVerbatim rfl) (fits_of_isVerbatim rfl)⟩
  · exact query_check hnormal.query fun q hq => (hquery q hq).trans hlength
  · exact fragment_check hnormal.fragment fun f hf => (hfragment f hf).trans hlength

end

section

variable (hu : ofText t = .ok u) (hne : u.scheme ≠ []) (hhost : u.host ≠ [])
  (htype : ∀ c ∈ type, Percent.isUnreserved c = true)
  (hid : ∀ c ∈ id, Percent.isUnreserved c = true)

include hu hne hhost

theorem absolute_path : (Resource.path u.readablePath type id).head? = some (.scalar '/') := by
  obtain ⟨r, hr⟩ := exists_readablePath hu hne hhost
  rw [hr, Resource.path]
  split_ifs <;> rfl

include htype hid

theorem direct_path (hpath : EscapedAs u.readablePath u.shownPath) (hdots : ¬ IsDots id) :
    ∀ s ∈ segments (Resource.path u.readablePath type id), ¬ IsDots s := by
  have hbare : ∀ t : Text, (∀ c ∈ t, Percent.isUnreserved c = true) → .scalar '/' ∉ t :=
    fun t ht hmem => Bool.noConfusion (ht _ hmem)
  obtain ⟨r, hr⟩ := exists_readablePath hu hne hhost
  have hdirect := (direct_iff_of_escapedAs hpath).2 (direct_shownPath hu hne hhost)
  exact Resource.direct_path_of_bare (hr ▸ List.cons_ne_nil _ _) hdirect (hbare type htype)
    (hbare id hid) hdots

/-- Only a stable base is kept. -/
theorem stable_of_kept (h : u.withPath (Resource.path u.readablePath type id) = .ok v)
    (hkept : v.Matches (u.below type id)) : u.Stable := by
  obtain ⟨-, hnormal⟩ := ofText_eq_ok_iff.1 hu
  obtain ⟨hcheck, hagain⟩ := withPath_eq_ok_iff.1 h
  have hu' := isHost_of_normalisesTo hnormal
  have hv := isHost_of_normalisesTo hagain
  constructor
  · have hhost' := hagain.host
    rw [partsWith, splitAuthority_authority hu', host_eq_of_withPath hu h hkept.authority] at hhost'
    exact (normaliseHost_bracketed_eq_iff hu').1 hhost'
  · exact port_ne_of_authority hu' hv (port_of_withPath hnormal h) hkept.authority.symm
  · have hescaped := Request.escapedAs_of_resourceUrl hne (Request.resourceUrl_eq_ok_iff.2 h)
    have habsolute : (Resource.path u.readablePath type id).head? = some (.scalar '/') :=
      absolute_path hu hne hhost
    rw [hkept.path, below, ← front_shownPath, path_eq_front] at hescaped
    rw [path_eq_front] at habsolute
    exact escapedAs_of_kept (isVerbatim_relative htype hid) habsolute hescaped
  · intro c hc
    have hpath := (Parts.check_eq_ok_iff.1 hcheck).2.2.1
    obtain ⟨hcontrol, hstops⟩ := (path_check_eq_ok_iff.1 hpath).2 c (subset_path _ _ _ hc)
    simpa [hcontrol] using hstops

theorem normalisesTo_below (hstable : u.Stable) (hdots : ¬ IsDots id) :
    (u.partsWith (Resource.path u.readablePath type id)).NormalisesTo (u.below type id) := by
  have hnormal := (ofText_eq_ok_iff.1 hu).2
  have hport : (u.port.filter fun n => defaultPort? u.scheme ≠ some n) = u.port := by
    cases hport : u.port with
    | none => rfl
    | some n => rw [Option.filter_some, if_pos (decide_eq_true (hstable.port n hport))]
  have hagain := normalisesTo_partsWith hnormal hne
    ((normaliseHost_bracketed_eq_iff (isHost_of_normalisesTo hnormal)).2 hstable.host)
    (absolute_path hu hne hhost) (direct_path hu hne hhost htype hid hstable.path hdots)
    (escapedAs_below htype hid hstable)
  rwa [hport] at hagain

/-- A stable base is kept, as long as the URL is short enough. -/
theorem kept_of_stable (hscheme : Component.scheme.check u.scheme = .ok ()) (hstable : u.Stable)
    (hdots : ¬ IsDots id) (hlength : (u.below type id).text.length ≤ lengthLimit) :
    u.withPath (Resource.path u.readablePath type id) = .ok (u.below type id) :=
  withPath_eq_ok_iff.2 ⟨check_below htype hid hu hscheme hstable hlength,
    normalisesTo_below hu hne hhost htype hid hstable hdots⟩

end

end Url

end JsonApi
