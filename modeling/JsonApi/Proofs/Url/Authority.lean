import JsonApi.Proofs.Host.Label
import JsonApi.Proofs.Url.Normalise

/-!
# Hosts in normal form

The host of a URL is the address of version 6 that it was made from, or a name of characters that
stand for themselves (`Url.IsHost`).  So a URL is told its own host again when its authority is
taken apart (`Url.splitAuthority_authority`), and a host that is normalised again changes in nothing
but case (`Url.normaliseHost_bracketed`).
-/

namespace JsonApi.Url

variable {c : CodePoint} {s t front behind host h : Text} {u v : Url}

/-! ### Names -/

/-- The name of a host in normal form: characters that stand for themselves in it, and capitals
nowhere but in escapes. -/
structure IsName (host : Text) : Prop where
  plain : ∀ c ∈ host, (Percent.isUnreserved c || isSafeInHost c) = true
  small : ∀ c ∈ host, c.isCapital = true → c.hexDigit?.isSome = true

/-- A host in normal form: a name, or an address of version 6. -/
def IsHost (host : Text) : Prop :=
  IsName host ∨ (Address.v6? host).isSome = true ∧ .scalar '@' ∉ host

theorem ofAscii_isSafeInHost : Percent.OfAscii isSafeInHost := by
  intro c hc
  cases c with
  | surrogate => cases hc
  | scalar c =>
    simp only [isSafeInHost, List.contains_iff_mem] at hc
    have hall : (['!', '$', '&', '\'', '(', ')', '*', '+', ',', ';', '=', '"', '`', '\x7b', '\x7d',
        '%', '|', '\\'].all fun c => (CodePoint.scalar c).isAscii) = true := by decide
    exact List.all_eq_true.1 hall c hc

theorem IsName.isAscii (hname : IsName host) : host.all CodePoint.isAscii = true :=
  List.all_eq_true.2 fun c hc => (Bool.or_eq_true _ _ ▸ hname.plain c hc).elim
    Percent.isAscii_of_isUnreserved (ofAscii_isSafeInHost c)

theorem IsName.not_mem (hname : IsName host)
    (hc : (Percent.isUnreserved c || isSafeInHost c) = false) : c ∉ host := by
  intro hmem
  rw [hname.plain c hmem] at hc
  cases hc

/-- A name that is put into lower case is one still, and its characters still stand for
themselves. -/
theorem IsName.asciiLower (hname : IsName host) : IsName host.asciiLower := by
  refine ⟨fun c hc => ?_, fun c hc hcapital => ?_⟩
  · rw [Text.asciiLower_eq_map] at hc
    obtain ⟨d, hd, rfl⟩ := List.mem_map.1 hc
    cases hcapital : d.isCapital with
    | false =>
      rw [CodePoint.asciiLower_of_small hcapital]
      exact hname.plain d hd
    | true =>
      have hnat := CodePoint.toNat_asciiLower hcapital
      rw [CodePoint.isCapital, Bool.and_eq_true, decide_eq_true_eq, decide_eq_true_eq] at hcapital
      rw [Percent.isUnreserved_of_alphanum (by omega), Bool.true_or]
  · rw [Text.isCapital_of_mem_asciiLower hc] at hcapital
    cases hcapital

/-! ### Normalising once -/

theorem mem_of_looksLikeV4 (hlooks : looksLikeV4 host = true) (hc : c ∈ host) :
    c = .scalar '.' ∨ c.isDigit = true := by
  rw [looksLikeV4, Bool.and_eq_true, List.all_eq_true] at hlooks
  rw [← Text.join_splitAt (.scalar '.') host] at hc
  rcases Text.mem_join hc with hc | ⟨run, hrun, hc⟩
  · exact .inl (List.mem_singleton.1 hc)
  · have := hlooks.2 run hrun
    rw [Bool.and_eq_true, List.all_eq_true] at this
    exact .inr (this.2 c hc)

theorem ne_nil_of_looksLikeV4 (hlooks : looksLikeV4 host = true) : host ≠ [] := by
  rintro rfl
  cases hlooks

/-- Dots, hyphens, digits and small letters make a name. -/
theorem isName_of_forall (h : ∀ c ∈ host, c = .scalar '.' ∨ c = .scalar '-' ∨
    48 ≤ c.toNat ∧ c.toNat ≤ 57 ∨ 97 ≤ c.toNat ∧ c.toNat ≤ 122) : IsName host := by
  refine ⟨fun c hc => ?_, fun c hc hcapital => ?_⟩
  · rcases h c hc with rfl | rfl | hc
    · rfl
    · rfl
    · rw [Percent.isUnreserved_of_alphanum (by omega), Bool.true_or]
  · rcases h c hc with rfl | rfl | hc
    · cases hcapital
    · cases hcapital
    · rw [CodePoint.isCapital, Bool.and_eq_true, decide_eq_true_eq, decide_eq_true_eq] at hcapital
      omega

theorem isName_of_looksLikeV4 (hlooks : looksLikeV4 host = true) : IsName host := by
  refine isName_of_forall fun c hc => ?_
  rcases mem_of_looksLikeV4 hlooks hc with rfl | hc
  · exact .inl rfl
  · cases c with
    | surrogate => cases hc
    | scalar c => exact .inr (.inr (.inl (Char.isDigit_iff_toNat.1 hc)))

theorem isName_of_encode (he : Percent.encode isSafeInHost (Text.asciiLower host) = .ok h) :
    IsName h := by
  refine ⟨fun c hc => ?_, fun c hc hcapital => ?_⟩
  · rcases Percent.mem_encode ofAscii_isSafeInHost he hc with rfl | hc | hc
    · rfl
    · rw [Percent.isUnreserved_of_hexDigit hc, Bool.true_or]
    · exact hc.2
  · rcases Percent.mem_encode ofAscii_isSafeInHost he hc with rfl | hc | hc
    · cases hcapital
    · exact hc
    · rw [Text.isCapital_of_mem_asciiLower hc.1] at hcapital
      cases hcapital

theorem isName_of_toAscii (he : Host.toAscii (Text.lower host) = .ok h) : IsName h := by
  refine isName_of_forall fun c hc => ?_
  rcases Host.isPlain_of_toAscii (fun _ => Text.isCapital_of_mem_lower) he c hc with hc | hc
  · exact .inl hc
  · obtain ⟨hascii, hpermitted⟩ := Bool.and_eq_true_iff.1 hc
    rw [CodePoint.isAscii, decide_eq_true_eq] at hascii
    rw [Host.Label.isPermitted, if_pos hascii, Bool.or_eq_true, Bool.or_eq_true, Bool.and_eq_true,
      Bool.and_eq_true, beq_iff_eq] at hpermitted
    rcases hpermitted with (hletter | hdigit) | hhyphen
    · exact .inr (.inr (.inr ⟨of_decide_eq_true hletter.1, of_decide_eq_true hletter.2⟩))
    · exact .inr (.inr (.inl ⟨of_decide_eq_true hdigit.1, of_decide_eq_true hdigit.2⟩))
    · exact .inr (.inl (by rw [← CodePoint.ofNat_toNat c, hhyphen]; rfl))

/-- How a host came by its normal form. -/
inductive HostForm (host : Text) : Text → Prop
  | missing (hnil : host = []) : HostForm host []
  | v4 (hlooks : looksLikeV4 host = true) : HostForm host host
  | v6 (hv6 : (Address.v6? (host.drop 1).dropLast).isSome = true) :
    HostForm host (host.drop 1).dropLast
  | ascii {h : Text} (hlooks : looksLikeV4 host = false)
    (hascii : host.all CodePoint.isAscii = true)
    (hencode : Percent.encode isSafeInHost host.asciiLower = .ok h) : HostForm host h
  | name {h : Text} (hascii : ¬ host.all CodePoint.isAscii = true)
    (hname : Host.toAscii host.lower = .ok h) : HostForm host h

theorem hostForm_of_normaliseHost (hnormal : normaliseHost host = .ok h) : HostForm host h := by
  unfold normaliseHost at hnormal
  dsimp only at hnormal
  split_ifs at hnormal with hnil hlooks hv4 hbrackets hv6 hascii
  · obtain rfl := Except.ok.inj hnormal
    exact .missing hnil
  · obtain rfl := Except.ok.inj hnormal
    exact .v4 hlooks
  · obtain rfl := Except.ok.inj hnormal
    exact .v6 hv6
  · exact .ascii (Bool.eq_false_iff.2 hlooks) hascii (Except.mapError_eq_ok_iff.1 hnormal)
  · exact .name hascii (Except.mapError_eq_ok_iff.1 hnormal)

/-- The normal form of a host is a name, or the host itself without its brackets. -/
theorem isHost_of_normaliseHost (hat : .scalar '@' ∉ host) (hnormal : normaliseHost host = .ok h) :
    IsHost h := by
  cases hostForm_of_normaliseHost hnormal with
  | missing => exact .inl ⟨List.forall_mem_nil _, List.forall_mem_nil _⟩
  | v4 hlooks => exact .inl (isName_of_looksLikeV4 hlooks)
  | v6 hv6 => exact .inr ⟨hv6, fun hmem => hat (List.mem_of_mem_drop (List.dropLast_subset _ hmem))⟩
  | ascii _ _ hencode => exact .inl (isName_of_encode hencode)
  | name _ hname => exact .inl (isName_of_toAscii hname)

/-- The normal form of a host is a name, or made of characters that were there before. -/
theorem isName_or_subset (hnormal : normaliseHost host = .ok h) : IsName h ∨ h ⊆ host := by
  cases hostForm_of_normaliseHost hnormal with
  | missing => exact .inr (List.nil_subset _)
  | v4 => exact .inr (List.Subset.refl _)
  | v6 => exact .inr fun c hc => List.mem_of_mem_drop (List.dropLast_subset _ hc)
  | ascii _ _ hencode => exact .inl (isName_of_encode hencode)
  | name _ hname => exact .inl (isName_of_toAscii hname)

/-! ### Taking authorities apart -/

/-- A host as it stands in an authority. -/
def bracketed (host : Text) : Text :=
  if host.contains (.scalar ':') then ("[" : Text) ++ host ++ ("]" : Text) else host

theorem pieces?_of_not_mem (hc : .scalar ':' ∉ t) : Address.pieces? t = none := by
  rw [Address.pieces?, Text.splitAt_of_not_mem hc]
  rfl

/-- An address of version 6 has colons in it. -/
theorem colon_mem_of_v6? (hv6 : (Address.v6? host).isSome = true) : .scalar ':' ∈ host := by
  by_contra hc
  have hnone : Address.v6? host = none := by
    unfold Address.v6?
    split
    · rfl
    -- the address is split at its colons, whether a scope was cut off behind it or not
    · split
      · rw [pieces?_of_not_mem hc]
        rfl
      · rename_i address scope hcut
        have haddress : .scalar ':' ∉ address := by
          rw [Text.append_of_cut? hcut, List.mem_append, not_or] at hc
          exact hc.1
        split
        · rfl
        · rw [pieces?_of_not_mem haddress]
          rfl
  rw [hnone] at hv6
  cases hv6

theorem cutLast?_append_cons (s : Text) (hc : c ∉ t) : cutLast? c (s ++ c :: t) = some (s, t) := by
  have hreverse : (s ++ c :: t).reverse = t.reverse ++ c :: s.reverse := by simp
  rw [cutLast?, hreverse, Text.cut?_append_cons (by simpa using hc)]
  simp

theorem cutLast?_of_not_mem (hc : c ∉ t) : cutLast? c t = none := by
  rw [cutLast?, Text.cut?_of_not_mem (by simpa using hc)]
  rfl

/-- What is cut off behind the last place of a character does not hold the character. -/
theorem not_mem_of_cutLast? (c : CodePoint) (t : Text) :
    c ∉ ((cutLast? c t).getD ([], t)).2 := by
  by_cases hc : c ∈ t
  · obtain ⟨behind, front, hsplit, hbehind⟩ := List.eq_append_cons_of_mem (List.mem_reverse.2 hc)
    have ht : t = front.reverse ++ c :: behind.reverse := by
      rw [← List.reverse_reverse t, hsplit]
      simp
    rw [ht, cutLast?_append_cons _ (by simpa using hbehind)]
    simpa using hbehind
  · rwa [cutLast?_of_not_mem hc]

/-- What stands behind a host: a port, or nothing. -/
def portText : Option Int → Text
  | none => []
  | some n => .scalar ':' :: Text.ofInt n

theorem hostAndPort_eq (u : Url) : u.hostAndPort = bracketed u.host ++ portText u.port := by
  rw [hostAndPort, bracketed]
  cases u.port <;> rfl

theorem not_mem_portText {port : Option Int} (hne : c ≠ .scalar ':') (hne' : c ≠ .scalar '-')
    (hdigit : c.isDigit = false) : c ∉ portText port := by
  cases port with
  | none => exact List.not_mem_nil
  | some n =>
    rw [portText, List.mem_cons, not_or]
    refine ⟨hne, fun hc => ?_⟩
    rcases Text.mem_ofInt hc with hc | hc
    · exact hne' hc
    · rw [hdigit] at hc
      cases hc

theorem cutLast?_authority (hat : .scalar '@' ∉ u.host) :
    (cutLast? (.scalar '@') u.authority).getD ([], u.authority) = (u.userInfo, u.hostAndPort) := by
  have hbehind : .scalar '@' ∉ u.hostAndPort := by
    have hport : .scalar '@' ∉ portText u.port := not_mem_portText (by decide) (by decide) rfl
    rw [hostAndPort_eq, List.mem_append, not_or]
    refine ⟨?_, hport⟩
    rw [bracketed]
    split
    · simp only [List.mem_append, not_or]
      exact ⟨⟨by decide, hat⟩, by decide⟩
    · exact hat
  rw [authority]
  split
  · rename_i huser
    rw [List.nil_append, cutLast?_of_not_mem hbehind, huser]
    rfl
  · rw [List.append_assoc]
    exact congrArg (Option.getD · _) (cutLast?_append_cons u.userInfo hbehind)

theorem splitBefore_colon (hc : .scalar ':' ∉ host) (port : Option Int) :
    splitBefore [':'] (host ++ portText port) = (host, portText port) := by
  have hgoes : ∀ x ∈ host, (!([':'].any fun s => decide (x = CodePoint.scalar s))) = true := by
    intro x hx
    have hne : x ≠ .scalar ':' := fun h => hc (h ▸ hx)
    simp [hne]
  rw [splitBefore, List.takeWhile_append_of_pos hgoes, List.dropWhile_append_of_pos hgoes]
  cases port with
  | none => simp [portText]
  | some n => simp [portText]

theorem cutPort_portText (userInfo host : Text) (port : Option Int) :
    (match portText port with
      | .scalar ':' :: port => (userInfo, host, port)
      | port => (userInfo, host, port)) = (userInfo, host, (portText port).drop 1) := by
  cases port <;> rfl

/-- A URL whose authority is taken apart has its user information, its host and its port in it. -/
theorem splitAuthority_authority (hhost : IsHost u.host) :
    splitAuthority u.authority = (u.userInfo, bracketed u.host, (portText u.port).drop 1) := by
  have hat : .scalar '@' ∉ u.host := hhost.elim (·.not_mem rfl) (·.2)
  unfold splitAuthority
  rw [cutLast?_authority hat, hostAndPort_eq]
  dsimp only
  have hopen : .scalar '[' ∉ portText u.port := not_mem_portText (by decide) (by decide) rfl
  have hclose : .scalar ']' ∉ portText u.port := not_mem_portText (by decide) (by decide) rfl
  rcases hhost with hname | ⟨hv6, -⟩
  · have hcolon : .scalar ':' ∉ u.host := hname.not_mem rfl
    have hhead : (u.host ++ portText u.port).head? ≠ some (.scalar '[') := by
      intro hhead
      rcases List.mem_append.1 (List.mem_of_mem_head? hhead) with h | h
      · exact hname.not_mem rfl h
      · exact hopen h
    -- a bare host ends before its port, at the first colon
    have hbare : bracketed u.host = u.host := if_neg (by simpa using hcolon)
    rw [hbare, if_neg hhead, Option.getD_none, splitBefore_colon hcolon]
    exact cutPort_portText _ _ _
  · have hcolon := colon_mem_of_v6? hv6
    have hbrackets : bracketed u.host = .scalar '[' :: u.host ++ [.scalar ']'] :=
      if_pos (by simpa using hcolon)
    -- the last closing bracket is the host's, since a port has none
    have hcut := cutLast?_append_cons (.scalar '[' :: u.host) hclose
    have hhead : (.scalar '[' :: u.host ++ .scalar ']' :: portText u.port).head? =
        some (.scalar '[') := rfl
    rw [hbrackets, List.append_assoc, List.singleton_append, hcut, if_pos hhead]
    exact cutPort_portText _ _ _

/-! ### Normalising again -/

theorem looksLikeV4_of_mem (hc : c ∈ host) (hne : c ≠ .scalar '.') (hdigit : c.isDigit = false) :
    looksLikeV4 host = false := by
  rw [← Bool.not_eq_true]
  intro hlooks
  rcases mem_of_looksLikeV4 hlooks hc with h | h
  · exact hne h
  · rw [hdigit] at h
    cases h

theorem IsName.bracketed_eq (hname : IsName host) : bracketed host = host :=
  if_neg (by simpa using hname.not_mem rfl)

/-- A name that does not look like an address is put into lower case. -/
theorem IsName.normaliseHost_eq (hname : IsName host) (hlooks : looksLikeV4 host = false) :
    normaliseHost host = .ok host.asciiLower := by
  by_cases hnil : host = []
  · subst hnil
    rfl
  · have hbrackets : ¬ (host.head? = some (.scalar '[') ∧ host.getLast? = some (.scalar ']')) :=
      fun h => hname.not_mem rfl (List.mem_of_mem_head? h.1)
    rw [normaliseHost, if_neg hnil, hlooks, if_neg Bool.false_ne_true, if_neg hbrackets,
      if_pos hname.isAscii, Percent.encode_of_forall hname.asciiLower.plain]
    rfl

theorem normaliseHost_of_v6 (hv6 : (Address.v6? host).isSome = true) :
    normaliseHost (bracketed host) = .ok host := by
  have hcolon := colon_mem_of_v6? hv6
  have hbrackets : bracketed host = .scalar '[' :: (host ++ [.scalar ']']) :=
    if_pos (by simpa using hcolon)
  have hlooks : looksLikeV4 (bracketed host) = false :=
    looksLikeV4_of_mem (c := .scalar '[') (hbrackets ▸ List.mem_cons_self) (by decide) rfl
  have hinner : ((bracketed host).drop 1).dropLast = host := by
    rw [hbrackets, List.drop_one, List.tail_cons, List.dropLast_concat]
  have hends : (bracketed host).head? = some (.scalar '[') ∧
      (bracketed host).getLast? = some (.scalar ']') := by
    rw [hbrackets]
    exact ⟨rfl, by rw [← List.cons_append, List.getLast?_concat]⟩
  rw [normaliseHost, if_neg (hbrackets ▸ List.cons_ne_nil _ _), hlooks, if_neg (by decide),
    if_pos hends, hinner, if_pos hv6]

/-- A host that is normalised again stays, but for capitals in escapes. -/
theorem normaliseHost_bracketed (hhost : IsHost host)
    (hnormal : normaliseHost (bracketed host) = .ok h) :
    h = host ∨ IsName host ∧ h = host.asciiLower := by
  rcases hhost with hname | ⟨hv6, -⟩
  · rw [hname.bracketed_eq] at hnormal
    by_cases hlooks : looksLikeV4 host = true
    · rw [normaliseHost, if_neg (ne_nil_of_looksLikeV4 hlooks), if_pos hlooks] at hnormal
      split_ifs at hnormal
      exact .inl (Except.ok.inj hnormal).symm
    · rw [hname.normaliseHost_eq (by simpa using hlooks)] at hnormal
      exact .inr ⟨hname, (Except.ok.inj hnormal).symm⟩
  · rw [normaliseHost_of_v6 hv6] at hnormal
    exact .inl (Except.ok.inj hnormal).symm

/-! ### Hosts of URLs -/

theorem append_of_cutLast? (h : cutLast? c t = some (front, behind)) :
    t = front ++ c :: behind := by
  rw [cutLast?] at h
  obtain ⟨⟨s, r⟩, hcut, hpair⟩ := Option.map_eq_some_iff.1 h
  obtain ⟨rfl, rfl⟩ := Prod.mk.inj hpair
  rw [← List.reverse_reverse t, Text.append_of_cut? hcut]
  simp

/-- The parts of an authority lie within it, the host behind the last sign that separates it from
the user information. -/
theorem mem_splitAuthority (t : Text) :
    (∀ x ∈ (splitAuthority t).1, x ∈ t) ∧
      ∀ x ∈ (splitAuthority t).2.1, x ∈ ((cutLast? (.scalar '@') t).getD ([], t)).2 := by
  have hfront : ∀ x ∈ ((cutLast? (.scalar '@') t).getD ([], t)).1, x ∈ t := by
    cases hcut : cutLast? (.scalar '@') t with
    | none => exact List.forall_mem_nil _
    | some pair =>
      intro x hx
      rw [append_of_cutLast? hcut]
      exact List.mem_append_left _ hx
  unfold splitAuthority
  generalize (cutLast? (.scalar '@') t).getD ([], t) = cut at hfront ⊢
  dsimp only
  have hhost : ∀ x ∈ ((if cut.2.head? = some (.scalar '[') then
        (cutLast? (.scalar ']') cut.2).map fun host => (host.1 ++ [.scalar ']'], host.2)
      else none).getD (splitBefore [':'] cut.2)).1, x ∈ cut.2 := by
    have hbefore : ∀ x ∈ (splitBefore [':'] cut.2).1, x ∈ cut.2 :=
      fun x hx => List.takeWhile_subset _ hx
    split
    · cases hcut : cutLast? (.scalar ']') cut.2 with
      | none => exact hbefore
      | some pair =>
        intro x hx
        rw [append_of_cutLast? hcut]
        exact (List.mem_append.1 hx).elim (List.mem_append_left _)
          fun hx => List.mem_append_right _ (List.mem_singleton.1 hx ▸ List.mem_cons_self)
    · exact hbefore
  split <;> exact ⟨hfront, hhost⟩

theorem isHost_of_normalisesTo {p : Parts} (hnormal : p.NormalisesTo u) : IsHost u.host :=
  isHost_of_normaliseHost
    (fun hat => not_mem_of_cutLast? _ _ ((mem_splitAuthority p.authority).2 _ hat)) hnormal.host

/-- A URL with another path keeps its host, but for capitals in escapes. -/
theorem host_of_withPath (hhost : IsHost u.host) {path : Text} (hv : u.withPath path = .ok v) :
    v.host = u.host ∨ IsName u.host ∧ v.host = u.host.asciiLower := by
  have hnormal := (normalisesTo_of_withPath hv).host
  rw [partsWith, splitAuthority_authority hhost] at hnormal
  exact normaliseHost_bracketed hhost hnormal

theorem isPrefixOf_map {f : CodePoint → CodePoint} (hf : ∀ d ∈ s, ∀ x ∈ t, f x = d ↔ x = d) :
    s.isPrefixOf (t.map f) = s.isPrefixOf t := by
  induction s generalizing t with
  | nil => rfl
  | cons d s ih =>
    cases t with
    | nil => rfl
    | cons x t =>
      obtain ⟨hd, hs⟩ := List.forall_mem_cons.1 hf
      have hx : (d == f x) = (d == x) := by
        have hiff := hd x List.mem_cons_self
        rw [Bool.eq_iff_iff, beq_iff_eq, beq_iff_eq, eq_comm, hiff, eq_comm]
      rw [List.map_cons, List.isPrefixOf_cons_cons, List.isPrefixOf_cons_cons, hx,
        ih fun d hd y hy => hs d hd y (List.mem_cons_of_mem _ hy)]

/-- No capital of an escape is in the prefix of names that are written in ASCII. -/
theorem isPrefixOf_asciiLower (hname : IsName host) :
    Host.Label.asciiPrefix.isPrefixOf host.asciiLower = Host.Label.asciiPrefix.isPrefixOf host := by
  have hprefix : ∀ d ∈ Host.Label.asciiPrefix, d.isCapital = false ∧
      ¬ (97 ≤ d.toNat ∧ d.toNat ≤ 102) := by decide
  rw [Text.asciiLower_eq_map]
  refine isPrefixOf_map fun d hd x hx => ?_
  cases hcapital : x.isCapital with
  | false => rw [CodePoint.asciiLower_of_small hcapital]
  | true =>
    have hdigit := Percent.toNat_of_hexDigit (hname.small x hx hcapital)
    have hnat := CodePoint.toNat_asciiLower hcapital
    obtain ⟨hsmall, hletter⟩ := hprefix d hd
    rw [CodePoint.isCapital, Bool.and_eq_true, decide_eq_true_eq, decide_eq_true_eq] at hcapital
    rw [CodePoint.isCapital_eq_false_iff] at hsmall
    constructor
    · rintro rfl
      omega
    · rintro rfl
      omega

/-- A URL with another path has a readable host if it had one before. -/
theorem exists_readableHost_of_withPath (hhost : IsHost u.host) {path : Text}
    (hv : u.withPath path = .ok v) (hreadable : ∃ name, u.readableHost = .ok name) :
    ∃ name, v.readableHost = .ok name := by
  rcases host_of_withPath hhost hv with h | ⟨hname, h⟩
  · rwa [readableHost, h]
  · rw [readableHost, h, isPrefixOf_asciiLower hname, Host.toUnicode_asciiLower hname.isAscii]
    rw [readableHost] at hreadable
    split
    · rwa [if_pos ‹_›] at hreadable
    · exact ⟨_, rfl⟩

end JsonApi.Url
