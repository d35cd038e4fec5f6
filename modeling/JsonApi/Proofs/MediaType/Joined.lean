import JsonApi.Proofs.MediaType.Pieces
import Mathlib.Data.List.Forall2

/-!
# Content types inside longer ones

Several content types are read as one text, joined by commas.  The parameters of each are guarded by
those of the whole: what stands in front can only take its type away
(`MediaType.tail_pieces_subset`), and what stands behind grows into its last piece, which is then
let through only if it is without it (`Negotiation.guards_append`), because a name that is let
through holds no comma.
-/

namespace JsonApi

namespace Text

variable {c : CodePoint} {s t : Text}

/-! ### Stripping around a character -/

theorem dropWhile_isBlank_append_cons (hc : c.isBlank = false) (s t : Text) :
    (s ++ c :: t).dropWhile CodePoint.isBlank = s.dropWhile CodePoint.isBlank ++ c :: t := by
  induction s with
  | nil => exact List.dropWhile_cons_of_neg (by simp [hc])
  | cons x s ih =>
    by_cases hx : x.isBlank = true
    · rw [List.cons_append, List.dropWhile_cons_of_pos hx, ih, List.dropWhile_cons_of_pos hx]
    · rw [List.cons_append, List.dropWhile_cons_of_neg hx, List.dropWhile_cons_of_neg hx,
        List.cons_append]

theorem strip_append_cons (hc : c.isBlank = false) (s t : Text) :
    strip (s ++ c :: t) =
      s.dropWhile CodePoint.isBlank ++ c :: t.rdropWhile CodePoint.isBlank := by
  rw [strip_eq_rdropWhile, dropWhile_isBlank_append_cons hc, List.rdropWhile, List.reverse_append,
    List.reverse_cons, List.append_assoc, List.singleton_append,
    dropWhile_isBlank_append_cons hc, List.reverse_append, List.reverse_cons, List.reverse_reverse,
    List.append_assoc, List.singleton_append, List.rdropWhile]

theorem strip_dropWhile (t : Text) : strip (t.dropWhile CodePoint.isBlank) = t.strip := by
  rw [strip_eq_rdropWhile, List.dropWhile_idempotent, strip_eq_rdropWhile]

theorem mem_strip (hc : c.isBlank = false) (h : c ∈ t) : c ∈ t.strip := by
  obtain ⟨s, r, rfl⟩ := List.append_of_mem h
  rw [strip_append_cons hc]
  exact List.mem_append_right _ List.mem_cons_self

theorem strip_ne_nil_of_mem (hc : c.isBlank = false) (h : c ∈ t) : t.strip ≠ [] :=
  List.ne_nil_of_mem (mem_strip hc h)

theorem exists_of_strip_ne_nil (h : t.strip ≠ []) : ∃ c ∈ t, c.isBlank = false := by
  by_contra hnone
  refine h (strip_eq_nil_iff.2 (List.all_eq_true.2 fun c hc => ?_))
  by_contra hblank
  exact hnone ⟨c, hc, Bool.eq_false_iff.2 hblank⟩

/-! ### Names in lower case -/

theorem Case.mem_lowerFrom (h : c ∈ t) (before : Text) :
    ∃ front behind, ∀ d ∈ lowerBetween front c behind, d ∈ lowerFrom before t := by
  induction t generalizing before with
  | nil => cases h
  | cons x t ih =>
    rcases List.mem_cons.1 h with rfl | h
    · exact ⟨before, t, fun d hd => List.mem_append_left _ hd⟩
    · obtain ⟨front, behind, hmem⟩ := ih h (x :: before)
      exact ⟨front, behind, fun d hd => List.mem_append_right _ (hmem d hd)⟩

/-- A character that the lower case of a name of small letters cannot come from: a comma, or one
that the first byte of a longer sequence of UTF-8 is in Latin-1. -/
def IsForeign (c : CodePoint) : Prop := c = .scalar ',' ∨ 0xC2 ≤ c.toNat ∧ c.toNat < 0xF5

theorem IsForeign.isBlank (hc : IsForeign c) : c.isBlank = false := by
  rcases hc with rfl | ⟨hge, hlt⟩
  · decide
  · simp only [CodePoint.isBlank, CodePoint.isWhiteSpace, CodePoint.isSeparatorControl]
    grind

theorem IsForeign.exists_mem_lowerBetween (hc : IsForeign c) (front behind : Text) :
    ∃ d ∈ Case.lowerBetween front c behind, ¬ (97 ≤ d.toNat ∧ d.toNat ≤ 122) := by
  have htable : ∀ n < 0xF5, 0xC2 ≤ n →
      ∀ d ∈ Case.mapCode Case.lowerShifts Case.lowerSequences n, 122 < d.toNat := by
    decide +kernel
  obtain ⟨d, hd⟩ := List.exists_mem_of_ne_nil _ (Case.lowerBetween_ne_nil front c behind)
  refine ⟨d, hd, ?_⟩
  rcases hc with rfl | ⟨hge, hlt⟩
  · rw [List.mem_singleton.1 hd]
    decide
  · cases c with
    | surrogate offset =>
      rw [CodePoint.toNat] at hlt
      omega
    | scalar x =>
      have hascii : (CodePoint.scalar x).isAscii = false := decide_eq_false (by omega)
      have hsigma : x ≠ 'Σ' := by
        rintro rfl
        exact absurd hlt (by decide)
      rw [Case.lowerBetween, hascii, if_neg Bool.false_ne_true, if_neg hsigma] at hd
      have := htable _ hlt hge d hd
      omega

/-- A text whose lower case is a name of small letters holds nothing foreign. -/
theorem not_mem_of_lower_strip {name : Text} (h : t.strip.lower = name)
    (hname : ∀ d ∈ name, 97 ≤ d.toNat ∧ d.toNat ≤ 122) (hc : IsForeign c) : c ∉ t := by
  intro hmem
  obtain ⟨front, behind, hlower⟩ := Case.mem_lowerFrom (mem_strip hc.isBlank hmem) []
  obtain ⟨d, hd, hnot⟩ := hc.exists_mem_lowerBetween front behind
  exact hnot (hname d (h ▸ hlower d hd))

end Text

namespace MediaType

variable {s t : Text}

/-! ### Behind another text -/

theorem pieces_ne_nil_of_mem {c : CodePoint} (hc : c.isBlank = false) (hne : c ≠ .scalar ';')
    (h : c ∈ t) : pieces t ≠ [] := by
  induction t using Text.splitInduction (.scalar ';') with
  | last t hbare =>
    rw [pieces_of_not_mem hbare, if_neg (Text.strip_ne_nil_of_mem hc h)]
    exact List.cons_ne_nil _ _
  | cons s t hbare ih =>
    rw [pieces_append_cons, pieces_of_not_mem hbare]
    rcases List.mem_append.1 h with h | h
    · rw [if_neg (Text.strip_ne_nil_of_mem hc h)]
      exact List.cons_ne_nil _ _
    · exact List.append_ne_nil_of_right_ne_nil _ (ih ((List.mem_cons.1 h).resolve_left hne))

/-- The parameters of a content type are among those of a text that ends with it. -/
theorem tail_pieces_subset (s t : Text) : (pieces t).tail ⊆ (pieces (s ++ t)).tail := by
  by_cases hmem : .scalar ';' ∈ t
  · obtain ⟨first, rest, rfl, hbare⟩ := List.eq_append_cons_of_mem hmem
    rw [← List.append_assoc, pieces_append_cons, pieces_append_cons, pieces_of_not_mem hbare]
    by_cases hfirst : Text.strip first = []
    · rw [if_pos hfirst, List.nil_append]
      cases hfront : pieces (s ++ first) with
      | nil => exact List.Subset.refl _
      | cons p ps =>
        exact List.Subset.trans (List.tail_sublist _).subset (List.subset_append_right _ _)
    · rw [if_neg hfirst, List.singleton_append, List.tail_cons]
      -- the type is not blank, so there is a piece for it in the longer text
      obtain ⟨c, hc, hblank⟩ := Text.exists_of_strip_ne_nil hfirst
      have hfront : pieces (s ++ first) ≠ [] :=
        pieces_ne_nil_of_mem hblank (ne_of_mem_of_not_mem hc hbare) (List.mem_append_right _ hc)
      obtain ⟨p, ps, hps⟩ := List.exists_cons_of_ne_nil hfront
      rw [hps, List.cons_append, List.tail_cons]
      exact List.subset_append_right _ _
  · rw [pieces_of_not_mem hmem]
    split_ifs <;> exact List.nil_subset _

/-! ### In front of another text -/

/-- The last piece of a text grows into what stands behind it. -/
theorem exists_pieces_append (hbare : .scalar ';' ∉ t) (hne : t.strip ≠ []) (s : Text) :
    ∃ front rest, front <+: s ∧ pieces (t ++ s) = (t ++ front).strip :: rest := by
  obtain ⟨c, hc, hblank⟩ := Text.exists_of_strip_ne_nil hne
  have hstrip : ∀ u, (t ++ u).strip ≠ [] := fun u =>
    Text.strip_ne_nil_of_mem hblank (List.mem_append_left _ hc)
  by_cases hmem : .scalar ';' ∈ s
  · obtain ⟨front, rest, rfl, hfront⟩ := List.eq_append_cons_of_mem hmem
    refine ⟨front, pieces rest, List.prefix_append _ _, ?_⟩
    rw [← List.append_assoc, pieces_append_cons, pieces_of_not_mem (by simp [hbare, hfront]),
      if_neg (hstrip front), List.singleton_append]
  · refine ⟨s, [], List.prefix_refl _, ?_⟩
    rw [pieces_of_not_mem (by simp [hbare, hmem]), if_neg (hstrip s)]

/-! ### Names -/

variable {n y : Text}

theorem nameOf_append_cons (hn : .scalar '=' ∉ n) (y : Text) :
    nameOf (n ++ .scalar '=' :: y) = n.strip.lower := by
  have htake : (n ++ .scalar '=' :: y).takeWhile (· ≠ .scalar '=') = n := by
    rw [List.takeWhile_append_of_pos fun c hc => by simpa using ne_of_mem_of_not_mem hc hn]
    simp
  rw [nameOf, htake]

theorem nameOf_of_not_mem (hn : .scalar '=' ∉ n) : nameOf n = n.strip.lower := by
  have htake : n.takeWhile (· ≠ .scalar '=') = n :=
    List.takeWhile_eq_self_iff.2 fun c hc => by simpa using ne_of_mem_of_not_mem hc hn
  rw [nameOf, htake]

end MediaType

namespace Negotiation

open MediaType

variable {s : Settings} {t n : Text}

/-! ### Parameters that are let through -/

/-- What may stand behind the type: a charset that is tolerated, or a list. -/
def Admits (s : Settings) (piece : Text) : Prop :=
  nameOf piece = "charset" ∧ s.tolerateCharset = true ∨
    (nameOf piece = "ext" ∨ nameOf piece = "profile") ∧ (valueOf? piece).isSome

theorem admits_append_cons_iff (hn : .scalar '=' ∉ n) (y : Text) :
    Admits s (n ++ .scalar '=' :: y) ↔ n.strip.lower = "charset" ∧ s.tolerateCharset = true ∨
      n.strip.lower = "ext" ∨ n.strip.lower = "profile" := by
  rw [Admits, nameOf_append_cons hn, valueOf?, Text.cut?_append_cons hn]
  simp

theorem admits_iff_of_not_mem (hn : .scalar '=' ∉ n) :
    Admits s n ↔ n.strip.lower = "charset" ∧ s.tolerateCharset = true := by
  rw [Admits, nameOf_of_not_mem hn, valueOf?, Text.cut?_of_not_mem hn]
  simp

theorem admits_strip_iff (t : Text) : Admits s t.strip ↔ Admits s t := by
  have hequals : (CodePoint.scalar '=').isBlank = false := by decide
  by_cases hmem : .scalar '=' ∈ t
  · obtain ⟨n, y, rfl, hn⟩ := List.eq_append_cons_of_mem hmem
    have hdrop : .scalar '=' ∉ n.dropWhile CodePoint.isBlank := fun h =>
      hn ((List.dropWhile_suffix _).subset h)
    rw [Text.strip_append_cons hequals, admits_append_cons_iff hdrop, admits_append_cons_iff hn,
      Text.strip_dropWhile]
  · have hstrip : .scalar '=' ∉ t.strip := fun h => hmem (t.strip_subset h)
    rw [admits_iff_of_not_mem hstrip, admits_iff_of_not_mem hmem, Text.strip_strip]

/-- The name of a parameter that is let through holds nothing foreign. -/
theorem not_mem_of_admits {y : Text} {c : CodePoint} (hn : .scalar '=' ∉ n)
    (h : Admits s n ∨ Admits s (n ++ .scalar '=' :: y)) (hc : Text.IsForeign c) : c ∉ n := by
  have hname : n.strip.lower = "charset" ∨ n.strip.lower = "ext" ∨ n.strip.lower = "profile" := by
    rw [admits_iff_of_not_mem hn, admits_append_cons_iff hn] at h
    tauto
  rcases hname with hname | hname | hname <;>
    exact Text.not_mem_of_lower_strip hname (by decide) hc

/-- A parameter that is let through with a comma behind it is let through without it. -/
theorem admits_of_append_comma {r : Text} (h : Admits s (t ++ .scalar ',' :: r)) : Admits s t := by
  have hcomma : Text.IsForeign (.scalar ',') := .inl rfl
  by_cases hmem : .scalar '=' ∈ t
  · obtain ⟨n, y, rfl, hn⟩ := List.eq_append_cons_of_mem hmem
    rw [List.append_assoc, List.cons_append, admits_append_cons_iff hn] at h
    rwa [admits_append_cons_iff hn]
  · -- without an equals sign in front of it the comma would be part of the name
    exfalso
    by_cases hrest : .scalar '=' ∈ r
    · obtain ⟨n, y, rfl, hn⟩ := List.eq_append_cons_of_mem hrest
      have hwhole : .scalar '=' ∉ t ++ .scalar ',' :: n := by simp [hmem, hn]
      have h : Admits s ((t ++ .scalar ',' :: n) ++ .scalar '=' :: y) := by simpa using h
      exact not_mem_of_admits hwhole (.inr h) hcomma (by simp)
    · have hwhole : .scalar '=' ∉ t ++ .scalar ',' :: r := by simp [hmem, hrest]
      exact not_mem_of_admits (y := []) hwhole (.inl h) hcomma (by simp)

/-! ### Pieces that guard others -/

/-- Each of the second pieces comes from one of the first, in order, which is let through only if it
is itself. -/
def Guards (s : Settings) (ps qs : List Text) : Prop :=
  List.SublistForall₂ (fun q p => Admits s p → Admits s q) qs ps

theorem Guards.refl (s : Settings) (ps : List Text) : Guards s ps ps :=
  List.sublistForall₂_iff.2 ⟨ps, List.forall₂_same.2 fun _ _ => id, List.Sublist.refl _⟩

theorem Guards.append {ps qs ps' qs' : List Text} (h : Guards s ps qs) (h' : Guards s ps' qs') :
    Guards s (ps ++ ps') (qs ++ qs') := by
  obtain ⟨l, hl, hsub⟩ := List.sublistForall₂_iff.1 h
  obtain ⟨l', hl', hsub'⟩ := List.sublistForall₂_iff.1 h'
  exact List.sublistForall₂_iff.2 ⟨l ++ l', List.rel_append hl hl', hsub.append hsub'⟩

theorem Guards.cons {p q : Text} (h : Admits s p → Admits s q) (rest : List Text) :
    Guards s (p :: rest) [q] :=
  List.SublistForall₂.cons h .nil

theorem admits_of_forall₂ {ps qs : List Text}
    (h : List.Forall₂ (fun q p => Admits s p → Admits s q) qs ps) (hps : ∀ p ∈ ps, Admits s p) :
    ∀ q ∈ qs, Admits s q := by
  induction h with
  | nil => exact List.forall_mem_nil _
  | cons hpq _ ih =>
    obtain ⟨hp, hrest⟩ := List.forall_mem_cons.1 hps
    exact List.forall_mem_cons.2 ⟨hpq hp, ih hrest⟩

/-- The parameters of a content type are let through when those that guard them are. -/
theorem Guards.tail {ps qs : List Text} (h : Guards s ps qs) (hps : ∀ p ∈ ps.tail, Admits s p) :
    ∀ q ∈ qs.tail, Admits s q := by
  obtain ⟨l, hl, hsub⟩ := List.sublistForall₂_iff.1 h
  have hdrop := List.forall₂_drop 1 hl
  rw [List.drop_one, List.drop_one] at hdrop
  exact admits_of_forall₂ hdrop fun p hp => hps p (hsub.tail.subset hp)

/-- A content type is guarded by a text that goes on behind it with a comma. -/
theorem guards_append (t : Text) {r : Text} (hr : r = [] ∨ ∃ u, r = .scalar ',' :: u) :
    Guards s (pieces (t ++ r)) (pieces t) := by
  induction t using Text.splitInduction (.scalar ';') with
  | last t hbare =>
    rw [pieces_of_not_mem hbare]
    split_ifs with hstrip
    · exact .nil
    · obtain ⟨front, rest, hprefix, hpieces⟩ := exists_pieces_append hbare hstrip r
      rw [hpieces]
      refine .cons (fun h => ?_) rest
      rw [admits_strip_iff] at h ⊢
      rcases front with - | ⟨c, front⟩
      · rwa [List.append_nil] at h
      · obtain rfl | ⟨u, rfl⟩ := hr
        · cases List.prefix_nil.1 hprefix
        · obtain ⟨rfl, -⟩ := List.cons_prefix_cons.1 hprefix
          exact admits_of_append_comma h
  | cons front t hbare ih =>
    rw [List.append_assoc, List.cons_append, pieces_append_cons, pieces_append_cons]
    exact (Guards.refl s _).append ih

end Negotiation

end JsonApi
