import JsonApi.Proofs.Text
import JsonApi.Proofs.Url.Percent
import JsonApi.Resource.Path
import JsonApi.Url

/-!
# Segments of paths

A path is a list of segments with slashes between them.  It is escaped segment by segment
(`Url.forall₂_encode_segments`), dot segments are removed from it when it is normalised
(`Url.segments_normalisePath`), and the path of a resource adds segments to those of its base
(`Resource.segments_path`).  Removing dot segments and reading escapes both make a path lighter
(`Url.weight_removeDots_lt`, `Url.weight_map_decode_le`).
-/

namespace JsonApi

namespace Url

/-- The segments of a path. -/
def segments (path : Text) : List Text := path.splitAt (.scalar '/')

/-- The segments of a path, without the empty one behind a slash at the end. -/
def stem (path : Text) : List Text :=
  if (segments path).getLast? = some [] then (segments path).dropLast else segments path

variable {p s t e : Text} {ss es before : List Text}

/-! ### Escaping -/

theorem ofAscii_isPlainBut (excluded : List Char) : Percent.OfAscii (isPlainBut excluded) := by
  intro c hc
  cases c with
  | surrogate => cases hc
  | scalar c =>
    simp only [isPlainBut, Bool.and_eq_true, decide_eq_true_eq] at hc
    rw [CodePoint.isAscii, CodePoint.toNat, decide_eq_true_eq]
    omega

theorem ofAscii_isSafeInPath : Percent.OfAscii isSafeInPath := ofAscii_isPlainBut _

theorem encode_append_slash (s t : Text) :
    Percent.encode isSafeInPath (s ++ .scalar '/' :: t) = .ok e ↔
      ∃ d f, Percent.encode isSafeInPath s = .ok d ∧ Percent.encode isSafeInPath t = .ok f ∧
        d ++ .scalar '/' :: f = e :=
  Percent.encode_append_cons_eq_ok_iff ofAscii_isSafeInPath rfl (by decide) (by decide)

theorem decode_slash (t r : Text) : Percent.decode (t ++ .scalar '/' :: r) =
    Percent.decode t ++ .scalar '/' :: Percent.decode r :=
  Percent.decode_append_cons rfl (by decide) rfl t r

/-- The segment is escaped as the other one. -/
def EscapedAs (s e : Text) : Prop := Percent.encode isSafeInPath s = .ok e

theorem forall₂_encode_segments (h : EscapedAs p e) :
    List.Forall₂ EscapedAs (segments p) (segments e) := by
  induction p using Text.splitInduction (.scalar '/') generalizing e with
  | last p hp =>
    have he : .scalar '/' ∉ e :=
      fun hmem => hp (Percent.mem_of_mem_encode ofAscii_isSafeInPath rfl (by decide) h hmem)
    rw [segments, segments, Text.splitAt_of_not_mem hp, Text.splitAt_of_not_mem he]
    exact .cons h .nil
  | cons s p hs ih =>
    obtain ⟨d, f, hd, hf, rfl⟩ := (encode_append_slash s p).1 h
    have hmem : .scalar '/' ∉ d :=
      fun hmem => hs (Percent.mem_of_mem_encode ofAscii_isSafeInPath rfl (by decide) hd hmem)
    rw [segments, segments, Text.splitAt_append_cons, Text.splitAt_append_cons,
      Text.splitAt_of_not_mem hs, Text.splitAt_of_not_mem hmem]
    exact .cons hd (ih hf)

theorem rightUnique_escapedAs : Relator.RightUnique EscapedAs :=
  fun _ _ _ hb hc => Except.ok.inj (hb.symm.trans hc)

theorem escapedAs_nil_right_iff : EscapedAs s [] ↔ s = [] := by
  constructor
  · intro h
    cases s using Percent.escapeInduction with
    | nil => rfl
    | escape a b t ha hb =>
      rw [EscapedAs, Percent.encode_escape ha hb, Except.map_eq_ok_iff] at h
      obtain ⟨_, -, h⟩ := h
      cases h
    | cons c t hstart =>
      obtain ⟨-, rest, -, h⟩ :=
        (Percent.encode_cons_eq_ok_iff ofAscii_isSafeInPath hstart).1 h
      obtain ⟨f, r, hshown, -⟩ := Percent.exists_shown_cons isSafeInPath c
      rw [hshown] at h
      cases h
  · rintro rfl
    rfl

theorem holdsEscape_segments (h : Percent.holdsEscape p = false) :
    ∀ s ∈ segments p, Percent.holdsEscape s = false := by
  induction p using Text.splitInduction (.scalar '/') with
  | last p hp =>
    rw [segments, Text.splitAt_of_not_mem hp]
    exact List.forall_mem_singleton.2 h
  | cons s p hs ih =>
    rw [Percent.holdsEscape_append rfl (by decide), Bool.or_eq_false_iff] at h
    rw [segments, Text.splitAt_append_cons, Text.splitAt_of_not_mem hs]
    exact List.forall_mem_cons.2 ⟨h.1, ih h.2⟩

theorem map_decode_of_forall₂ (h : List.Forall₂ EscapedAs ss es)
    (hss : ∀ s ∈ ss, Percent.holdsEscape s = false) : es.map Percent.decode = ss := by
  induction h with
  | nil => rfl
  | cons h _ ih =>
    obtain ⟨hs, hss⟩ := List.forall_mem_cons.1 hss
    rw [List.map_cons, Percent.decode_of_encode ofAscii_isSafeInPath h hs, ih hss]

/-! ### Weights -/

/-- The characters of segments, each with a slash. -/
def weight : List Text → Nat
  | [] => 0
  | s :: ss => s.length + 1 + weight ss

@[simp] theorem weight_nil : weight [] = 0 := rfl

@[simp] theorem weight_cons (s : Text) (ss : List Text) :
    weight (s :: ss) = s.length + 1 + weight ss := rfl

@[simp] theorem weight_append (ss ts : List Text) : weight (ss ++ ts) = weight ss + weight ts := by
  induction ss with
  | nil => simp
  | cons s ss ih => simp [ih, Nat.add_assoc]

@[simp] theorem weight_reverse (ss : List Text) : weight ss.reverse = weight ss := by
  induction ss with
  | nil => rfl
  | cons s ss ih => simp [ih, Nat.add_comm]

theorem weight_segments (p : Text) : weight (segments p) = p.length + 1 := by
  induction p using Text.splitInduction (.scalar '/') with
  | last p hp => simp [segments, Text.splitAt_of_not_mem hp]
  | cons s p hs ih =>
    rw [segments] at ih ⊢
    rw [Text.splitAt_append_cons, Text.splitAt_of_not_mem hs]
    simp [ih]
    omega

/-- What is read back from escaped segments is no heavier than the segments. -/
theorem weight_map_decode_le (h : List.Forall₂ EscapedAs ss es) :
    weight (es.map Percent.decode) ≤ weight ss := by
  induction h with
  | nil => exact Nat.le_refl _
  | cons h _ ih =>
    have := Percent.length_decode_add_le ofAscii_isSafeInPath h
    simp only [List.map_cons, weight_cons]
    omega

/-- What is read back from escaped segments is lighter than the segments if there are escapes. -/
theorem holdsEscape_of_weight_le (h : List.Forall₂ EscapedAs ss es)
    (hle : weight ss ≤ weight (es.map Percent.decode)) :
    ∀ s ∈ ss, Percent.holdsEscape s = false := by
  induction h with
  | nil => exact List.forall_mem_nil _
  | @cons s e ss es h hrest ih =>
    have hdecode := Percent.length_decode_add_le ofAscii_isSafeInPath h
    have := weight_map_decode_le hrest
    simp only [List.map_cons, weight_cons] at hle
    have hs : (Percent.holdsEscape s).toNat = 0 := by omega
    exact List.forall_mem_cons.2 ⟨by simpa using hs, ih (by omega)⟩

/-! ### Dot segments -/

/-- Dot segments: this place, and the one above. -/
def IsDots (s : Text) : Prop := s = (".") ∨ s = ("..")

instance : DecidablePred IsDots := fun s => inferInstanceAs (Decidable (s = _ ∨ s = _))

theorem removeDots_cons (hs : ¬ IsDots s) : removeDots before (s :: ss) =
    removeDots (s :: before) ss := by
  rw [IsDots, not_or] at hs
  rw [removeDots, if_neg hs.1, if_neg hs.2]

theorem removeDots_of_forall (h : ∀ s ∈ ss, ¬ IsDots s) :
    removeDots before ss = before.reverse ++ ss := by
  induction ss generalizing before with
  | nil => rw [removeDots, List.append_nil]
  | cons s ss ih =>
    obtain ⟨hs, hss⟩ := List.forall_mem_cons.1 h
    rw [removeDots_cons hs, ih hss, List.reverse_cons, List.append_assoc, List.singleton_append]

theorem weight_removeDots_le (before ss : List Text) :
    weight (removeDots before ss) ≤ weight before + weight ss := by
  induction ss generalizing before with
  | nil => simp [removeDots]
  | cons s ss ih =>
    rw [removeDots, weight_cons]
    split_ifs
    · have := ih before
      omega
    · have := ih before
      omega
    · have := ih (before.drop 1)
      have : weight (before.drop 1) ≤ weight before := by
        cases before <;> simp
      omega
    · have := ih (s :: before)
      rw [weight_cons] at this
      omega

/-- Removing a dot segment takes at least its slash away. -/
theorem weight_removeDots_lt (before : List Text) (h : ∃ s ∈ ss, IsDots s) :
    weight (removeDots before ss) < weight before + weight ss := by
  induction ss generalizing before with
  | nil => simp at h
  | cons s ss ih =>
    by_cases hs : IsDots s
    · have hle : weight (removeDots before (s :: ss)) ≤ weight before + weight ss := by
        -- one dot takes nothing away, and two take the segment before them, but never the root
        rcases hs with rfl | rfl
        · exact weight_removeDots_le before ss
        · have hbefore : weight (if before = [[]] then before else before.drop 1) ≤
              weight before := by
            split_ifs
            · exact Nat.le_refl _
            · cases before <;> simp
          exact Nat.le_trans (weight_removeDots_le _ ss) (Nat.add_le_add_right hbefore _)
      rw [weight_cons]
      omega
    · have := ih (s :: before) (by simpa [hs] using h)
      rw [removeDots_cons hs, weight_cons]
      rw [weight_cons] at this
      omega

theorem mem_removeDots (h : s ∈ removeDots before ss) :
    s ∈ before ∨ s ∈ ss ∧ ¬ IsDots s := by
  induction ss generalizing before with
  | nil => exact .inl (List.mem_reverse.1 h)
  | cons t ss ih =>
    by_cases ht : IsDots t
    · have hbefore : s ∈ before ∨ s ∈ ss ∧ ¬ IsDots s := by
        rcases ht with rfl | rfl
        · exact ih h
        · refine (ih (show s ∈ removeDots _ ss from h)).imp_left fun hmem => ?_
          split_ifs at hmem
          · exact hmem
          · exact List.mem_of_mem_drop hmem
      exact hbefore.imp_right fun ⟨hs, hdots⟩ => ⟨List.mem_cons_of_mem _ hs, hdots⟩
    · rw [removeDots_cons ht] at h
      rcases ih h with hmem | ⟨hs, hdots⟩
      · rcases List.mem_cons.1 hmem with rfl | hmem
        · exact .inr ⟨List.mem_cons_self, ht⟩
        · exact .inl hmem
      · exact .inr ⟨List.mem_cons_of_mem _ hs, hdots⟩

/-- The empty segment in front of an absolute path stays. -/
theorem removeDots_absolute (before ss : List Text) :
    ∃ rest, removeDots (before ++ [[]]) ss = [] :: rest := by
  induction ss generalizing before with
  | nil => exact ⟨before.reverse, by simp [removeDots]⟩
  | cons s ss ih =>
    rw [removeDots]
    split_ifs with hdot hdots hroot
    · exact ih before
    · exact ih before
    · cases before with
      | nil => exact absurd rfl hroot
      | cons _ before => exact ih before
    · exact ih (s :: before)

theorem isDots_iff_of_escapedAs (h : EscapedAs p e) : IsDots p ↔ IsDots e := by
  constructor
  · rintro (rfl | rfl)
    · exact .inl (rightUnique_escapedAs h rfl)
    · exact .inr (rightUnique_escapedAs h rfl)
  · intro hdots
    have hpercent : .scalar '%' ∉ e := by
      rcases hdots with rfl | rfl <;> decide
    exact Percent.eq_of_encode ofAscii_isSafeInPath h hpercent ▸ hdots

/-- Escaping neither makes nor hides dot segments. -/
theorem direct_iff_of_escapedAs (h : EscapedAs p e) :
    (∀ s ∈ segments p, ¬ IsDots s) ↔ ∀ s ∈ segments e, ¬ IsDots s := by
  have hsegments := forall₂_encode_segments h
  generalize segments p = ss, segments e = es at hsegments
  induction hsegments with
  | nil => rfl
  | cons h _ ih =>
    rw [List.forall_mem_cons, List.forall_mem_cons]
    exact and_congr (not_congr (isDots_iff_of_escapedAs h)) ih

/-! ### Absolute paths -/

theorem segments_slash (t : Text) : segments (.scalar '/' :: t) = [] :: segments t := rfl

theorem segments_absolute_iff :
    (∃ rest, segments p = [] :: rest) ↔ p = [] ∨ p.head? = some (.scalar '/') := by
  cases p with
  | nil => simp [segments, Text.splitAt]
  | cons c p =>
    by_cases hc : c = .scalar '/'
    · simp [hc, segments_slash]
    · obtain ⟨piece, pieces, h⟩ := List.exists_cons_of_ne_nil
        (Text.splitAt_ne_nil (.scalar '/') p)
      simp [segments, Text.splitAt, h, hc]

/-- The segments of a path in normal form, the empty one in front included. -/
theorem segments_normalisePath (h : p = [] ∨ p.head? = some (.scalar '/')) :
    segments (normalisePath p) = removeDots [] (segments p) ∧
      ∃ rest, segments (normalisePath p) = [] :: rest := by
  obtain ⟨ss, hss⟩ := segments_absolute_iff.2 h
  obtain ⟨rest, hrest⟩ : ∃ rest, removeDots [] (segments p) = [] :: rest := by
    rw [hss, removeDots_cons (by decide)]
    exact removeDots_absolute [] ss
  have hsegments : segments (normalisePath p) = removeDots [] (segments p) := by
    refine Text.splitAt_join (hrest ▸ List.cons_ne_nil _ _) fun s hs => ?_
    rcases mem_removeDots hs with hs | ⟨hs, -⟩
    · cases hs
    · exact Text.not_mem_of_mem_splitAt hs
  exact ⟨hsegments, rest, hsegments.trans hrest⟩

/-- A path without dot segments is in normal form. -/
theorem normalisePath_of_forall (h : ∀ s ∈ segments p, ¬ IsDots s) : normalisePath p = p := by
  have hremoved : removeDots [] (segments p) = segments p := removeDots_of_forall h
  rw [normalisePath, ← segments, hremoved]
  exact Text.join_splitAt _ p

/-! ### Stems -/

theorem stem_absolute {t : Text} : ∃ rest, stem (.scalar '/' :: t) = [] :: rest := by
  rw [stem, segments_slash]
  split_ifs
  · exact ⟨_, List.dropLast_cons_of_ne_nil (Text.splitAt_ne_nil _ t)⟩
  · exact ⟨_, rfl⟩

theorem mem_segments_of_mem_stem (h : s ∈ stem p) : s ∈ segments p := by
  unfold stem at h
  split at h
  · exact List.dropLast_subset _ h
  · exact h

theorem getLast?_segments (h : (segments p).getLast? = some []) :
    p = [] ∨ p.getLast? = some (.scalar '/') := by
  induction p using Text.splitInduction (.scalar '/') with
  | last p hp =>
    rw [segments, Text.splitAt_of_not_mem hp] at h
    exact .inl (Option.some.inj h)
  | cons s p hs ih =>
    rw [segments, Text.splitAt_append_cons, List.getLast?_append_of_ne_nil _
      (Text.splitAt_ne_nil _ p)] at h
    rcases ih h with rfl | h
    · exact .inr (by simp)
    · exact .inr (by simp [List.getLast?_append, List.getLast?_cons, h])

theorem forall₂_stem (h : EscapedAs p e) : List.Forall₂ EscapedAs (stem p) (stem e) := by
  have hsegments := forall₂_encode_segments h
  have hlast : (segments p).getLast? = some [] ↔ (segments e).getLast? = some [] := by
    have hreverse := List.forall₂_reverse_iff.2 hsegments
    rw [List.getLast?_eq_head?_reverse, List.getLast?_eq_head?_reverse]
    generalize (segments p).reverse = ps, (segments e).reverse = es at hreverse
    cases hreverse with
    | nil => rfl
    | @cons s d _ _ hs =>
      simp only [List.head?_cons, Option.some.injEq]
      constructor
      · rintro rfl
        exact rightUnique_escapedAs hs (escapedAs_nil_right_iff.2 rfl)
      · rintro rfl
        exact escapedAs_nil_right_iff.1 hs
  simp only [stem, hlast]
  split_ifs
  · rw [List.dropLast_eq_take, List.dropLast_eq_take, hsegments.length_eq]
    exact List.forall₂_take _ hsegments
  · exact hsegments

/-- A path that is continued behind a slash has its stem in front of that slash. -/
theorem exists_stem (hp : p ≠ []) :
    ∃ s, (if p.getLast? = some (.scalar '/') then p else p ++ ("/")) = s ++ [.scalar '/'] ∧
      segments s = stem p := by
  split_ifs with h
  · obtain ⟨s, rfl⟩ := List.getLast?_eq_some_iff.1 h
    have hsegments : segments (s ++ [.scalar '/']) = segments s ++ [[]] :=
      Text.splitAt_append_cons _ s []
    exact ⟨s, rfl, by simp [stem, hsegments]⟩
  · refine ⟨p, rfl, ?_⟩
    rw [stem, if_neg]
    intro hlast
    exact (getLast?_segments hlast).elim hp h

end Url

/-- The path of a resource adds the collection, and the id if there is one, to its base. -/
theorem Resource.segments_path {base : Text} (hbase : base ≠ []) (type id : Text) :
    Url.segments (path base type id) = Url.stem base ++
      (Url.segments (collectionName type) ++ if id = [] then [] else Url.segments id) := by
  obtain ⟨s, hs, hstem⟩ := Url.exists_stem hbase
  have hcollection : Url.segments (s ++ [.scalar '/'] ++ collectionName type) =
      Url.stem base ++ Url.segments (collectionName type) := by
    rw [List.append_assoc, List.singleton_append, ← hstem]
    exact Text.splitAt_append_cons _ s _
  simp only [path, hs]
  split_ifs
  · rw [hcollection, List.append_nil]
  · rw [← List.append_assoc, ← hcollection, List.append_assoc _ ("/" : Text)]
    exact Text.splitAt_append_cons _ _ id

/-- The path of a resource is made of its base, its type and its id, slashes and an `s`. -/
theorem Resource.forall_mem_path {P : CodePoint → Prop} {base type id : Text}
    (hbase : ∀ c ∈ base, P c) (htype : ∀ c ∈ type, P c) (hid : ∀ c ∈ id, P c)
    (hslash : P (.scalar '/')) (hs : P (.scalar 's')) : ∀ c ∈ path base type id, P c := by
  have hslash : ∀ c ∈ ("/" : Text), P c := List.forall_mem_singleton.2 hslash
  have hcollection : ∀ c ∈ collectionName type, P c :=
    List.forall_mem_append.2 ⟨htype, List.forall_mem_singleton.2 hs⟩
  have hfront : ∀ c ∈ (if base.getLast? = some (.scalar '/') then base else base ++ ("/" : Text)),
      P c := by
    split_ifs
    · exact hbase
    · exact List.forall_mem_append.2 ⟨hbase, hslash⟩
  have hstart := List.forall_mem_append.2 ⟨hfront, hcollection⟩
  rw [path]
  split
  · exact hstart
  · exact List.forall_mem_append.2 ⟨List.forall_mem_append.2 ⟨hstart, hslash⟩, hid⟩

end JsonApi
