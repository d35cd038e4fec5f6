import JsonApi.Proofs.Headers
import JsonApi.Proofs.Text.Integer
import JsonApi.Proofs.Url.Refusal

/-!
# URLs with another path

The components of a URL are checked and normalised again when it is given another path.  Those of a
URL that was spelled in ASCII hold nothing that is not admitted, and they have a normal form again,
so nothing but their length can be wrong with them (`Url.exists_withPath_iff`).  With the other path
the URL leads to where it led before (`Url.isMoved_of_withPath`).
-/

namespace JsonApi.Url

variable {c : CodePoint} {t host h path : Text} {u v : Url} {p : Parts}

/-! ### Checks -/

theorem control?_eq_none_iff : control? t = none ↔ ∀ c ∈ t, isControl c = false := by
  have hscan : t.firstRun? isControl 0 = none ↔ ∀ c ∈ t, isControl c = false := by
    rw [Text.firstRun_eq_none_iff, List.all_eq_true]
    simp only [Bool.not_eq_true']
  rw [← hscan, control?]
  cases hrun : t.firstRun? isControl 0 with
  | none => exact iff_of_true rfl rfl
  | some found =>
    obtain ⟨position, run⟩ := found
    obtain ⟨c, rest, rfl⟩ := Text.exists_cons_of_firstRun hrun
    exact iff_of_false (Option.some_ne_none _) (Option.some_ne_none _)

theorem checkText_eq_ok_iff :
    checkText t = .ok () ↔ t.length ≤ lengthLimit ∧ ∀ c ∈ t, isControl c = false := by
  rw [← control?_eq_none_iff, checkText]
  by_cases hlength : lengthLimit < t.length
  · rw [if_pos hlength]
    exact iff_of_false (fun h => nomatch h) fun h => Nat.not_le.2 hlength h.1
  · rw [if_neg hlength, and_iff_right (Nat.not_lt.1 hlength)]
    cases control? t <;> simp

theorem Component.check_eq_ok_iff {component : Component} : component.check t = .ok () ↔
    t.length ≤ lengthLimit ∧ (∀ c ∈ t, isControl c = false) ∧ component.admits t = true := by
  rw [← control?_eq_none_iff, Component.check]
  by_cases hlength : lengthLimit < t.length
  · rw [if_pos hlength]
    exact iff_of_false (fun h => nomatch h) fun h => Nat.not_le.2 hlength h.1
  · rw [if_neg hlength, and_iff_right (Nat.not_lt.1 hlength)]
    cases control? t <;> simp

theorem Parts.check_eq_ok_iff : p.check = .ok () ↔
    Component.scheme.check p.scheme = .ok () ∧ Component.authority.check p.authority = .ok () ∧
      Component.path.check p.path = .ok () ∧
        p.query.elim (.ok ()) Component.query.check = .ok () ∧
          p.fragment.elim (.ok ()) Component.fragment.check = .ok () := by
  simp only [Parts.check, Except.bind_eq_ok_iff]
  constructor
  · rintro ⟨_, hscheme, _, hauthority, _, hpath, _, hquery, hfragment⟩
    exact ⟨hscheme, hauthority, hpath, hquery, hfragment⟩
  · rintro ⟨hscheme, hauthority, hpath, hquery, hfragment⟩
    exact ⟨(), hscheme, (), hauthority, (), hpath, (), hquery, hfragment⟩

/-! ### Characters of authorities -/

/-- Whether a character is no control and starts no component behind an authority. -/
def isInner (c : CodePoint) : Bool :=
  !isControl c && !(c = .scalar '/' || c = .scalar '?' || c = .scalar '#')

theorem isInner_iff : isInner c = true ↔ isControl c = false ∧
    (c = .scalar '/' || c = .scalar '?' || c = .scalar '#') = false := by
  rw [isInner, Bool.and_eq_true, Bool.not_eq_true', Bool.not_eq_true']

theorem authority_check_eq_ok_iff : Component.authority.check t = .ok () ↔
    t.length ≤ lengthLimit ∧ ∀ c ∈ t, isInner c = true := by
  rw [Component.check_eq_ok_iff]
  refine and_congr_right' ?_
  simp only [isInner_iff, Component.admits, Bool.not_eq_true', List.any_eq_false,
    Bool.not_eq_true, forall_and]

theorem isInner_of_plain
    (h : (Percent.isUnreserved c || isSafeInUserInfo c || isSafeInHost c) = true) :
    isInner c = true := by
  have hascii : c.isAscii = true := by
    rcases Bool.or_eq_true_iff.1 h with h | h
    · exact (Bool.or_eq_true_iff.1 h).elim Percent.isAscii_of_isUnreserved (ofAscii_isPlainBut _ c)
    · exact ofAscii_isSafeInHost c h
  -- all of them are in ASCII, so they can be gone through
  have hall : ∀ n < 0x80, (Percent.isUnreserved (.ofNat n) || isSafeInUserInfo (.ofNat n) ||
      isSafeInHost (.ofNat n)) = true → isInner (.ofNat n) = true := by decide +kernel
  rw [← c.ofNat_toNat] at h ⊢
  exact hall _ (of_decide_eq_true hascii) h

theorem isInner_of_mem_portText {port : Option Int} (hc : c ∈ portText port) :
    isInner c = true := by
  cases port with
  | none => cases hc
  | some n =>
    rcases List.mem_cons.1 hc with rfl | hc
    · rfl
    · rcases Text.mem_ofInt hc with rfl | hdigit
      · rfl
      · have hcode := Text.toNat_of_isDigit hdigit
        refine isInner_of_plain ?_
        rw [Percent.isUnreserved_of_alphanum (.inl hcode), Bool.true_or, Bool.true_or]

theorem isInner_of_mem_userInfo (hu : p.NormalisesTo u) (hc : c ∈ u.userInfo) :
    isInner c = true := by
  refine isInner_of_plain (Bool.or_eq_true_iff.2 (.inl ?_))
  rcases Percent.mem_encode (ofAscii_isPlainBut _) hu.userInfo hc with rfl | hdigit | hplain
  · rfl
  · rw [Percent.isUnreserved_of_hexDigit hdigit, Bool.true_or]
  · exact hplain.2

theorem subset_host (t : Text) : (splitAuthority t).2.1 ⊆ t := by
  intro c hc
  have hbehind := (mem_splitAuthority t).2 c hc
  cases hcut : cutLast? (.scalar '@') t with
  | none =>
    rw [hcut] at hbehind
    exact hbehind
  | some pair =>
    rw [hcut] at hbehind
    rw [append_of_cutLast? hcut]
    exact List.mem_append_right _ (List.mem_cons_of_mem _ hbehind)

theorem isInner_of_mem_host (hu : p.NormalisesTo u) (hp : ∀ c ∈ p.authority, isInner c = true)
    (hc : c ∈ u.host) : isInner c = true := by
  rcases isName_or_subset hu.host with hname | hsubset
  · refine isInner_of_plain ?_
    rcases Bool.or_eq_true_iff.1 (hname.plain c hc) with h | h
    · rw [h, Bool.true_or, Bool.true_or]
    · rw [h, Bool.or_true]
  · exact hp c (subset_host _ (hsubset hc))

theorem isInner_of_mem_authority (hu : p.NormalisesTo u)
    (hp : ∀ c ∈ p.authority, isInner c = true) : ∀ c ∈ u.authority, isInner c = true := by
  have hhost : ∀ c ∈ bracketed u.host, isInner c = true := by
    unfold bracketed
    split
    · refine List.forall_mem_append.2 ⟨List.forall_mem_append.2 ⟨by decide, ?_⟩, by decide⟩
      exact fun c => isInner_of_mem_host hu hp
    · exact fun c => isInner_of_mem_host hu hp
  rw [authority, hostAndPort_eq]
  refine List.forall_mem_append.2 ⟨?_, List.forall_mem_append.2 ⟨hhost, ?_⟩⟩
  split
  · exact List.forall_mem_nil _
  · exact List.forall_mem_append.2 ⟨fun c => isInner_of_mem_userInfo hu, by decide⟩
  · exact fun c => isInner_of_mem_portText

theorem not_stops_of_mem_cutAuthority (hc : c ∈ (cutAuthority t).1) :
    (c = .scalar '/' || c = .scalar '?' || c = .scalar '#') = false := by
  unfold cutAuthority at hc
  split at hc
  · simpa [and_assoc] using List.mem_takeWhile_imp hc
  · cases hc

theorem isInner_of_mem_split (ht : ∀ c ∈ t, isControl c = false) :
    ∀ c ∈ (split t).authority, isInner c = true :=
  fun _ hc => isInner_iff.2 ⟨ht _ ((subset_split t).1 hc), not_stops_of_mem_cutAuthority hc⟩

/-! ### Hosts -/

theorem looksLikeV4_asciiLower (hlooks : looksLikeV4 host.asciiLower = true) :
    looksLikeV4 host = true := by
  -- no capital becomes a point or a digit
  have hsmall : ∀ c ∈ host, c.isCapital = false := by
    intro c hc
    rw [← Bool.not_eq_true]
    intro hcapital
    have hnat := CodePoint.toNat_asciiLower hcapital
    have hmem : c.asciiLower ∈ host.asciiLower := List.mem_map_of_mem hc
    rw [CodePoint.isCapital, Bool.and_eq_true, decide_eq_true_eq, decide_eq_true_eq] at hcapital
    rcases mem_of_looksLikeV4 hlooks hmem with hdot | hdigit
    · rw [hdot] at hnat
      change 46 = c.toNat + 32 at hnat
      omega
    · have := Text.toNat_of_isDigit hdigit
      omega
  rwa [Text.asciiLower_of_small hsmall] at hlooks

/-- What looks like an address was one before it was escaped. -/
theorem looksLikeV4_of_encode (hencode : Percent.encode isSafeInHost host.asciiLower = .ok h)
    (hlooks : looksLikeV4 h = true) : looksLikeV4 host = true := by
  have hpercent : .scalar '%' ∉ h := fun hmem => by
    rcases mem_of_looksLikeV4 hlooks hmem with hdot | hdigit
    · cases hdot
    · cases hdigit
  rw [Percent.eq_of_encode ofAscii_isSafeInHost hencode hpercent] at hlooks
  exact looksLikeV4_asciiLower hlooks

/-- A host in ASCII that has a normal form has one again. -/
theorem exists_normaliseHost_bracketed (hascii : host.IsAscii)
    (hnormal : normaliseHost host = .ok h) : ∃ h', normaliseHost (bracketed h) = .ok h' := by
  cases hostForm_of_normaliseHost hnormal with
  | missing => exact ⟨[], rfl⟩
  | v4 hlooks =>
    rw [(isName_of_looksLikeV4 hlooks).bracketed_eq]
    exact ⟨_, hnormal⟩
  | v6 hv6 => exact ⟨_, normaliseHost_of_v6 hv6⟩
  | ascii hlooks _ hencode =>
    have hname := isName_of_encode hencode
    have hlooks' : looksLikeV4 h = false := Bool.eq_false_iff.2 fun h' =>
      Bool.eq_false_iff.1 hlooks (looksLikeV4_of_encode hencode h')
    rw [hname.bracketed_eq]
    exact ⟨_, hname.normaliseHost_eq hlooks'⟩
  -- a name past ASCII may become what looks like an address but is none
  | name hother => exact absurd hascii hother

/-- The host that is normalised is in ASCII if the text is. -/
theorem isAscii_splitAuthority (ht : t.IsAscii) :
    Text.IsAscii (splitAuthority (split t).authority).2.1 :=
  List.all_eq_true.2 fun c hc => List.all_eq_true.1 ht c ((subset_split t).1 (subset_host _ hc))

theorem isAscii_of_normaliseHost (hascii : host.IsAscii) (hnormal : normaliseHost host = .ok h) :
    Text.IsAscii h := by
  rcases isName_or_subset hnormal with hname | hsubset
  · exact hname.isAscii
  · exact List.all_eq_true.2 fun c hc => List.all_eq_true.1 hascii c (hsubset hc)

theorem isAscii_host (ht : t.IsAscii) (hu : ofText t = .ok u) : Text.IsAscii u.host :=
  isAscii_of_normaliseHost (isAscii_splitAuthority ht) (ofText_eq_ok_iff.1 hu).2.host

/-! ### Ports -/

/-- A port in normal form is left out if it goes without saying, and stays as it is otherwise. -/
theorem normalisePort_portText {scheme t : Text} {port : Option Int}
    (h : normalisePort scheme t = .ok port) (scheme' : Text) :
    normalisePort scheme' ((portText port).drop 1) =
      .ok (port.filter fun n => defaultPort? scheme' ≠ some n) := by
  cases port with
  | none => rfl
  | some n =>
    -- the port was read from digits, so it has few enough of them to be read again
    have hn : n.natAbs < 10 ^ Text.integerDigits := by
      unfold normalisePort at h
      split at h
      · cases h
      · split at h
        · cases h
        · rename_i m hm
          have hsame := Except.ok.inj h
          split_ifs at hsame
          obtain rfl := Option.some.inj hsame
          exact Text.natAbs_lt_of_integer hm
    have hne : Text.ofInt n ≠ [] := Text.ofInt_ne_nil n
    change normalisePort scheme' (Text.ofInt n) = _
    rw [normalisePort, if_neg hne, Text.integer_ofInt hn, Option.filter_some]
    dsimp only
    by_cases hdefault : defaultPort? scheme' = some n <;> simp [hdefault]

/-! ### Paths -/

/-- Whether a character stands for itself in every path: one that does everywhere, or a slash. -/
def isVerbatim (c : CodePoint) : Bool := Percent.isUnreserved c || c = .scalar '/'

theorem isVerbatim_iff : isVerbatim c = true ↔ Percent.isUnreserved c = true ∨ c = .scalar '/' := by
  rw [isVerbatim, Bool.or_eq_true, decide_eq_true_eq]

/-- A path that is written as it is: absolute, of characters that stand for themselves, and without
dot segments. -/
structure Verbatim (path : Text) : Prop where
  absolute : path.head? = some (.scalar '/')
  plain : ∀ c ∈ path, isVerbatim c = true
  direct : ∀ s ∈ segments path, ¬ IsDots s

theorem escapedAs_of_isVerbatim (h : ∀ c ∈ path, isVerbatim c = true) : EscapedAs path path := by
  refine Percent.encode_of_forall fun c hc => ?_
  rcases isVerbatim_iff.1 (h c hc) with hplain | rfl
  · rw [hplain, Bool.true_or]
  · rfl

theorem Verbatim.escapedAs (hpath : Verbatim path) : EscapedAs path path :=
  escapedAs_of_isVerbatim hpath.plain

theorem path_check_eq_ok_iff : Component.path.check path = .ok () ↔ path.length ≤ lengthLimit ∧
    ∀ c ∈ path, isControl c = false ∧ (c = .scalar '?' || c = .scalar '#') = false := by
  rw [Component.check_eq_ok_iff]
  refine and_congr_right' ?_
  simp only [Component.admits, Bool.not_eq_true', List.any_eq_false, Bool.not_eq_true, forall_and]

/-- A character that stands for itself in every path may stand in one. -/
theorem fits_of_isVerbatim (hc : isVerbatim c = true) :
    isControl c = false ∧ (c = .scalar '?' || c = .scalar '#') = false := by
  rcases isVerbatim_iff.1 hc with hplain | rfl
  · obtain ⟨hcontrol, hstops⟩ := isInner_iff.1 (isInner_of_plain (by rw [hplain]; rfl))
    rw [Bool.or_assoc, Bool.or_eq_false_iff] at hstops
    exact ⟨hcontrol, hstops.2⟩
  · exact ⟨rfl, by decide⟩

theorem Verbatim.check_eq_ok_iff (hpath : Verbatim path) :
    Component.path.check path = .ok () ↔ path.length ≤ lengthLimit := by
  rw [path_check_eq_ok_iff]
  exact and_iff_left fun c hc => fits_of_isVerbatim (hpath.plain c hc)

theorem checkPath_of_absolute (h : path.head? = some (.scalar '/')) {scheme : Text}
    (hscheme : scheme ≠ []) (hasAuthority : Bool) :
    checkPath (scheme != []) hasAuthority path = .ok () := by
  rw [checkPath, bne_iff_ne.2 hscheme, h]
  simp

/-! ### Other paths -/

/-- The URL `v` leads to where the URL `u` does, but to another path there. -/
structure IsMoved (u : Url) (path : Text) (v : Url) : Prop where
  scheme : v.scheme = u.scheme
  userInfo : v.userInfo = u.userInfo
  /-- The digits of escapes may change their case. -/
  host : v.host.asciiLower = u.host.asciiLower
  /-- A port that goes without saying may have been kept behind a scheme in capitals. -/
  port : v.port = u.port.filter fun n => defaultPort? u.scheme ≠ some n
  path : v.path = path
  query : v.query = u.query
  fragment : v.fragment = u.fragment

theorem Parts.NormalisesTo.asciiLower_scheme (hu : p.NormalisesTo u) :
    u.scheme.asciiLower = u.scheme := by
  rw [← hu.scheme, Text.asciiLower_asciiLower]

theorem escapedWhere_again {isSafe : CodePoint → Bool} (hsafe : Percent.OfAscii isSafe)
    (hpercent : isSafe (.scalar '%') = true) {s e : Option Text} (h : EscapedWhere isSafe s e) :
    EscapedWhere isSafe e e := by
  cases h with
  | none => exact .none
  | some h => exact .some (Percent.encode_of_encode hsafe hpercent h)

/-- The components of a URL with another path have a normal form where its host has one again; of
the others only a port that goes without saying is not kept. -/
theorem normalisesTo_partsWith (hu : p.NormalisesTo u) (hne : u.scheme ≠ [])
    (hhost : normaliseHost (bracketed u.host) = .ok host)
    (habsolute : path.head? = some (.scalar '/')) (hdirect : ∀ s ∈ segments path, ¬ IsDots s)
    {e : Text} (hescaped : EscapedAs path e) : (u.partsWith path).NormalisesTo
      ⟨u.scheme, u.userInfo, host, u.port.filter fun n => defaultPort? u.scheme ≠ some n, e,
        u.query, u.fragment⟩ := by
  have hsplit := splitAuthority_authority (isHost_of_normalisesTo hu)
  constructor
  · exact hu.asciiLower_scheme
  · rw [partsWith, hsplit]
    exact Percent.encode_of_encode (ofAscii_isPlainBut _) rfl hu.userInfo
  · rw [partsWith, hsplit]
    exact hhost
  · rw [partsWith, hsplit]
    exact normalisePort_portText hu.port u.scheme
  · exact checkPath_of_absolute habsolute hne _
  · rw [bne_iff_ne.2 hne, Bool.true_or, if_pos rfl]
    exact (normalisePath_of_forall hdirect).symm ▸ hescaped
  · exact escapedWhere_again (ofAscii_isPlainBut _) rfl hu.query
  · exact escapedWhere_again (ofAscii_isPlainBut _) rfl hu.fragment

theorem port_of_withPath (hu : p.NormalisesTo u) (hv : u.withPath path = .ok v) :
    v.port = u.port.filter fun n => defaultPort? u.scheme ≠ some n := by
  have hport := (normalisesTo_of_withPath hv).port
  rw [partsWith, splitAuthority_authority (isHost_of_normalisesTo hu)] at hport
  exact Except.ok.inj (hport.symm.trans (normalisePort_portText hu.port u.scheme))

/-- With another path a URL leads to where it led before. -/
theorem isMoved_of_withPath (hu : p.NormalisesTo u) (hpath : Verbatim path) (hne : u.scheme ≠ [])
    (hv : u.withPath path = .ok v) : IsMoved u path v := by
  have hhost := isHost_of_normalisesTo hu
  have hnormal := normalisesTo_of_withPath hv
  have hagain := hnormal.host
  rw [partsWith, splitAuthority_authority hhost] at hagain
  -- the components of `u` with the path have one normal form, and it is `v`
  have hsame := Except.ok.inj ((Parts.normalise_eq_ok_iff.2 hnormal).symm.trans
    (Parts.normalise_eq_ok_iff.2 (normalisesTo_partsWith hu hne hagain hpath.absolute hpath.direct
      hpath.escapedAs)))
  constructor
  · rw [hsame]
  · rw [hsame]
  · rcases normaliseHost_bracketed hhost hagain with hsmall | ⟨-, hsmall⟩
    · rw [hsmall]
    · rw [hsmall, Text.asciiLower_asciiLower]
  · rw [hsame]
  · rw [hsame]
  · rw [hsame]
  · rw [hsame]

section

variable (ht : t.IsAscii) (hu : ofText t = .ok u)
  (hscheme : Component.scheme.check u.scheme = .ok ()) (hquery : u.query = none)
  (hfragment : u.fragment = none) (hpath : Verbatim path)

include hu hscheme hquery hfragment hpath

theorem check_partsWith_eq_ok_iff : (u.partsWith path).check = .ok () ↔
    u.authority.length ≤ lengthLimit ∧ path.length ≤ lengthLimit := by
  obtain ⟨htext, hnormal⟩ := ofText_eq_ok_iff.1 hu
  have hinner := isInner_of_mem_authority hnormal
    (isInner_of_mem_split (checkText_eq_ok_iff.1 htext).2)
  rw [Parts.check_eq_ok_iff, partsWith, hquery, hfragment, authority_check_eq_ok_iff,
    hpath.check_eq_ok_iff]
  exact ⟨fun h => ⟨h.2.1.1, h.2.2.1⟩, fun h => ⟨hscheme, ⟨h.1, hinner⟩, h.2, rfl, rfl⟩⟩

include ht

/-- A URL that was spelled in ASCII takes a path that is written as it is, as long as its authority
and the path are short enough. -/
theorem exists_withPath_iff (hne : u.scheme ≠ []) :
    (∃ v, u.withPath path = .ok v) ↔
      u.authority.length ≤ lengthLimit ∧ path.length ≤ lengthLimit := by
  simp only [withPath_eq_ok_iff, check_partsWith_eq_ok_iff hu hscheme hquery hfragment hpath]
  refine ⟨fun ⟨v, h, _⟩ => h, fun h => ?_⟩
  have hnormal := (ofText_eq_ok_iff.1 hu).2
  -- of all components only a host might have no second normal form
  obtain ⟨host, hagain⟩ :=
    exists_normaliseHost_bracketed (isAscii_splitAuthority ht) hnormal.host
  exact ⟨_, h, normalisesTo_partsWith hnormal hne hagain hpath.absolute hpath.direct
    hpath.escapedAs⟩

end

end JsonApi.Url
