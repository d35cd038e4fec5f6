import JsonApi.Proofs.Url.Authority

/-!
# Refused URLs

The parts of a URL are refused as faulty only, when what is escaped in them has a form in bytes
(`Url.Parts.Encodable`).  That holds of the parts of a text that has one (`Url.encodable_split`),
and of those of a URL with another path (`Url.encodable_partsWith`), because what a URL has is
escaped already.
-/

namespace JsonApi

namespace Url

variable {isSafe : CodePoint → Bool} {t : Text} {u : Url} {p : Parts}

/-- The refusal says what is wrong with a URL. -/
def Refusal.IsFaulty : Refusal → Prop
  | .faulty _ => True
  | .unencodable _ => False

theorem failsOnly_faulty {α : Type} (e : Error) :
    (.error (.faulty e) : Except Refusal α).FailsOnly Refusal.IsFaulty :=
  Except.failsOnly_error_iff.2 trivial

/-! ### Steps -/

theorem failsOnly_checkText (t : Text) : (checkText t).FailsOnly Refusal.IsFaulty := by
  unfold checkText
  split
  · exact failsOnly_faulty _
  · split
    · exact failsOnly_faulty _
    · exact Except.failsOnly_ok _

theorem failsOnly_componentCheck (component : Component) (t : Text) :
    (component.check t).FailsOnly Refusal.IsFaulty := by
  unfold Component.check
  split
  · exact failsOnly_faulty _
  · split
    · exact failsOnly_faulty _
    · split
      · exact Except.failsOnly_ok _
      · exact failsOnly_faulty _

theorem failsOnly_escaped (hsafe : Percent.OfAscii isSafe) (ht : t.isScalar = true) :
    ((Percent.encode isSafe t).mapError Refusal.unencodable).FailsOnly Refusal.IsFaulty := by
  obtain ⟨e, he⟩ := (Percent.exists_encode_iff hsafe).2 ht
  rw [he]
  exact Except.failsOnly_ok e

theorem failsOnly_mapM_escaped (hsafe : Percent.OfAscii isSafe) {t : Option Text}
    (ht : ∀ s ∈ t, s.isScalar = true) :
    (t.mapM fun t => (Percent.encode isSafe t).mapError Refusal.unencodable).FailsOnly
      Refusal.IsFaulty := by
  cases t with
  | none => exact Except.failsOnly_ok _
  | some t => exact Except.failsOnly_map_iff.2 (failsOnly_escaped hsafe (ht t rfl))

/-- A host that is escaped is one of ASCII, so every host has a normal form or a fault. -/
theorem failsOnly_normaliseHost (host : Text) :
    (normaliseHost host).FailsOnly Refusal.IsFaulty := by
  unfold normaliseHost
  dsimp only
  split_ifs with hnil hlooks hv4 hbrackets hv6 hascii
  · exact Except.failsOnly_ok _
  · exact Except.failsOnly_ok _
  · exact failsOnly_faulty _
  · exact Except.failsOnly_ok _
  · exact failsOnly_faulty _
  · refine failsOnly_escaped ofAscii_isSafeInHost (Text.isScalar_of_isAscii ?_)
    rwa [← List.all_eq_true, Text.all_isAscii_asciiLower]
  · exact Except.failsOnly_mapError_iff.2 fun _ _ => trivial

theorem failsOnly_normalisePort (scheme port : Text) :
    (normalisePort scheme port).FailsOnly Refusal.IsFaulty := by
  unfold normalisePort
  split
  · exact Except.failsOnly_ok _
  · split
    · exact failsOnly_faulty _
    · exact Except.failsOnly_ok _

theorem failsOnly_checkPath (hasScheme hasAuthority : Bool) (path : Text) :
    (checkPath hasScheme hasAuthority path).FailsOnly Refusal.IsFaulty := by
  unfold checkPath
  split_ifs
  · exact failsOnly_faulty _
  · exact failsOnly_faulty _
  · exact failsOnly_faulty _
  · exact Except.failsOnly_ok _

/-! ### Parts -/

/-- What is escaped in the parts of a URL has a form in bytes. -/
structure Parts.Encodable (p : Parts) : Prop where
  userInfo : (splitAuthority p.authority).1.isScalar = true
  path : p.path.isScalar = true
  query : ∀ q ∈ p.query, q.isScalar = true
  fragment : ∀ f ∈ p.fragment, f.isScalar = true

/-- A path without dot segments has no characters but slashes that it did not have before. -/
theorem isScalar_normalisePath {path : Text} (h : path.isScalar = true) :
    (normalisePath path).isScalar = true := by
  refine List.all_eq_true.2 fun c hc => ?_
  rcases Text.mem_join hc with hc | ⟨s, hs, hc⟩
  · obtain rfl := List.mem_singleton.1 hc
    rfl
  · rcases mem_removeDots hs with hs | ⟨hs, -⟩
    · cases hs
    · exact List.all_eq_true.1 h c (Text.mem_of_mem_splitAt hs hc)

theorem failsOnly_normalise (h : p.Encodable) : p.normalise.FailsOnly Refusal.IsFaulty := by
  have hpath : ∀ b : Bool, (if b then normalisePath p.path else p.path).isScalar = true := by
    intro b
    split
    · exact isScalar_normalisePath h.path
    · exact h.path
  refine .bind (failsOnly_escaped (ofAscii_isPlainBut _) h.userInfo) fun _ _ => ?_
  refine .bind (failsOnly_normaliseHost _) fun _ _ => ?_
  refine .bind (failsOnly_normalisePort _ _) fun _ _ => ?_
  refine .bind (failsOnly_checkPath _ _ _) fun _ _ => ?_
  refine .bind (failsOnly_escaped (ofAscii_isPlainBut _) (hpath _)) fun _ _ => ?_
  refine .bind (failsOnly_mapM_escaped (ofAscii_isPlainBut _) h.query) fun _ _ => ?_
  refine .bind (failsOnly_mapM_escaped (ofAscii_isPlainBut _) h.fragment) fun _ _ => ?_
  exact Except.failsOnly_ok _

/-! ### Texts -/

theorem subset_splitBefore (stops : List Char) (t : Text) :
    (splitBefore stops t).1 ⊆ t ∧ (splitBefore stops t).2 ⊆ t :=
  ⟨List.takeWhile_subset _, (List.dropWhile_sublist _).subset⟩

theorem subset_splitScheme (t : Text) : (splitScheme t).2 ⊆ t := by
  unfold splitScheme
  split
  · exact List.Subset.refl _
  · dsimp only
    split
    · rename_i hdrop
      exact List.Subset.trans (List.subset_cons_self _ _) (hdrop ▸ List.drop_subset _ _)
    · exact List.Subset.refl _

/-- The authority at the front of a text behind its scheme, and the text behind it. -/
def cutAuthority : Text → Text × Text
  | .scalar '/' :: .scalar '/' :: t => splitBefore ['/', '?', '#'] t
  | t => ([], t)

/-- The query at the front of a text behind its path, and the text behind it. -/
def cutQuery : Text → Option Text × Text
  | .scalar '?' :: t => (some (splitBefore ['#'] t).1, (splitBefore ['#'] t).2)
  | t => (none, t)

/-- The fragment that a text behind a query is. -/
def cutFragment : Text → Option Text
  | .scalar '#' :: t => some t
  | _ => none

theorem split_eq (t : Text) : split t =
    let authority := cutAuthority (splitScheme t).2
    let path := splitBefore ['?', '#'] authority.2
    let query := cutQuery path.2
    ⟨(splitScheme t).1, authority.1, path.1, query.1, cutFragment query.2⟩ := rfl

theorem subset_cutAuthority (t : Text) : (cutAuthority t).1 ⊆ t ∧ (cutAuthority t).2 ⊆ t := by
  unfold cutAuthority
  split
  · rename_i t
    have hbehind : t ⊆ .scalar '/' :: .scalar '/' :: t := fun c hc => by simp [hc]
    exact (subset_splitBefore _ t).imp (List.Subset.trans · hbehind) (List.Subset.trans · hbehind)
  · exact ⟨List.nil_subset _, List.Subset.refl _⟩

theorem subset_cutQuery (t : Text) : (∀ q ∈ (cutQuery t).1, q ⊆ t) ∧ (cutQuery t).2 ⊆ t := by
  unfold cutQuery
  split
  · rename_i t
    have hbehind : t ⊆ .scalar '?' :: t := List.subset_cons_self _ _
    obtain ⟨hquery, hrest⟩ := subset_splitBefore ['#'] t
    exact ⟨fun q hq => Option.mem_some.1 hq ▸ List.Subset.trans hquery hbehind,
      List.Subset.trans hrest hbehind⟩
  · exact ⟨fun q hq => absurd hq (Option.not_mem_none q), List.Subset.refl _⟩

theorem subset_cutFragment (t : Text) : ∀ f ∈ cutFragment t, f ⊆ t := by
  unfold cutFragment
  split
  · exact fun f hf => Option.mem_some.1 hf ▸ List.subset_cons_self _ _
  · exact fun f hf => absurd hf (Option.not_mem_none f)

theorem subset_split (t : Text) : (split t).authority ⊆ t ∧ (split t).path ⊆ t ∧
    (∀ q ∈ (split t).query, q ⊆ t) ∧ ∀ f ∈ (split t).fragment, f ⊆ t := by
  rw [split_eq]
  dsimp only
  have hscheme := subset_splitScheme t
  generalize (splitScheme t).2 = t₁ at hscheme ⊢
  obtain ⟨hauthority, ht₂⟩ := subset_cutAuthority t₁
  replace ht₂ := List.Subset.trans ht₂ hscheme
  generalize (cutAuthority t₁).2 = t₂ at ht₂ ⊢
  obtain ⟨hpath, ht₃⟩ := subset_splitBefore ['?', '#'] t₂
  replace ht₃ := List.Subset.trans ht₃ ht₂
  generalize (splitBefore ['?', '#'] t₂).2 = t₃ at ht₃ ⊢
  obtain ⟨hquery, ht₄⟩ := subset_cutQuery t₃
  replace ht₄ := List.Subset.trans ht₄ ht₃
  exact ⟨List.Subset.trans hauthority hscheme, List.Subset.trans hpath ht₂,
    fun q hq => List.Subset.trans (hquery q hq) ht₃,
    fun f hf => List.Subset.trans (subset_cutFragment _ f hf) ht₄⟩

/-- The parts of a text that has a form in bytes have one. -/
theorem encodable_split (h : t.isScalar = true) : (split t).Encodable := by
  obtain ⟨hauthority, hpath, hquery, hfragment⟩ := subset_split t
  have huser : (splitAuthority (split t).authority).1 ⊆ t :=
    List.Subset.trans (fun c hc => (mem_splitAuthority _).1 c hc) hauthority
  exact ⟨Text.isScalar_of_subset huser h, Text.isScalar_of_subset hpath h,
    fun q hq => Text.isScalar_of_subset (hquery q hq) h,
    fun f hf => Text.isScalar_of_subset (hfragment f hf) h⟩

/-- A text that has a form in bytes is a URL, or it is a faulty one. -/
theorem failsOnly_ofText (h : t.isScalar = true) : (ofText t).FailsOnly Refusal.IsFaulty :=
  .bind (failsOnly_checkText t) fun _ _ => failsOnly_normalise (encodable_split h)

/-! ### Other paths -/

theorem isScalar_of_encode (hsafe : Percent.OfAscii isSafe) {e : Text}
    (h : Percent.encode isSafe t = .ok e) : e.isScalar = true :=
  Text.isScalar_of_isAscii fun _ hc => Percent.isAscii_of_mem_encode hsafe h hc

theorem isScalar_of_escapedWhere (hsafe : Percent.OfAscii isSafe) {t e : Option Text}
    (h : EscapedWhere isSafe t e) : ∀ s ∈ e, s.isScalar = true := by
  cases h with
  | none => exact fun s hs => by cases hs
  | some h =>
    intro s hs
    exact Option.mem_some.1 hs ▸ isScalar_of_encode hsafe h

theorem encodable_partsWith (hu : p.NormalisesTo u) {path : Text} (hpath : path.isScalar = true) :
    (u.partsWith path).Encodable := by
  have hsplit := splitAuthority_authority (isHost_of_normalisesTo hu)
  refine ⟨?_, hpath, isScalar_of_escapedWhere (ofAscii_isPlainBut _) hu.query,
    isScalar_of_escapedWhere (ofAscii_isPlainBut _) hu.fragment⟩
  rw [partsWith, hsplit]
  exact isScalar_of_encode (ofAscii_isPlainBut _) hu.userInfo

theorem failsOnly_check (p : Parts) : p.check.FailsOnly Refusal.IsFaulty := by
  have hwhere : ∀ (component : Component) (t : Option Text),
      (t.elim (.ok ()) component.check).FailsOnly Refusal.IsFaulty := by
    rintro component (_ | t)
    · exact Except.failsOnly_ok _
    · exact failsOnly_componentCheck component t
  refine .bind (failsOnly_componentCheck _ _) fun _ _ => ?_
  refine .bind (failsOnly_componentCheck _ _) fun _ _ => ?_
  refine .bind (failsOnly_componentCheck _ _) fun _ _ => ?_
  exact .bind (hwhere _ _) fun _ _ => hwhere _ _

/-- A URL takes any path that has a form in bytes, unless what comes of it is faulty. -/
theorem failsOnly_withPath (hu : p.NormalisesTo u) {path : Text} (hpath : path.isScalar = true) :
    (u.withPath path).FailsOnly Refusal.IsFaulty := by
  rw [withPath_eq]
  exact .bind (failsOnly_check _) fun _ _ => failsOnly_normalise (encodable_partsWith hu hpath)

end Url

end JsonApi
