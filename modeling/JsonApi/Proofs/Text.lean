import JsonApi.Text
import Mathlib.Data.List.Basic

/-!
# Texts in pieces

A text that is split where a character stands is put together again by joining the pieces with
the character, and joined pieces are found again by splitting unless the character is in them.
Texts of numbers are made of digits, and what a text is made of bounds what its pieces are made of.
-/

namespace JsonApi.Text

variable {c : CodePoint}

theorem splitAt_eq_splitOn (c : CodePoint) (t : Text) : t.splitAt c = t.splitOn c := by
  induction t with
  | nil => rfl
  | cons x t ih =>
    rw [splitAt, ih, List.splitOn_cons_eq_if_modifyHead]
    by_cases hx : x = c
    · simp [hx]
    · obtain ⟨piece, pieces, h⟩ := List.exists_cons_of_ne_nil (List.splitOn_ne_nil c t)
      simp [hx, h]

theorem splitAt_ne_nil (c : CodePoint) (t : Text) : t.splitAt c ≠ [] :=
  splitAt_eq_splitOn c t ▸ List.splitOn_ne_nil c t

theorem splitAt_of_not_mem {t : Text} (h : c ∉ t) : t.splitAt c = [t] := by
  rw [splitAt_eq_splitOn, List.splitOn_eq_singleton h]

theorem splitAt_append_cons (c : CodePoint) (s t : Text) :
    (s ++ c :: t).splitAt c = s.splitAt c ++ t.splitAt c := by
  simp only [splitAt_eq_splitOn, List.splitOn_append_cons_self]

theorem splitAt_join {ts : List Text} (hne : ts ≠ []) (h : ∀ t ∈ ts, c ∉ t) :
    splitAt c (join [c] ts) = ts := by
  rw [splitAt_eq_splitOn]
  exact List.splitOn_intercalate c h hne

theorem join_splitAt (c : CodePoint) (t : Text) : join [c] (t.splitAt c) = t := by
  rw [splitAt_eq_splitOn]
  exact List.intercalate_splitOn c

/-- Induction over a text from one place of a character to the next. -/
theorem splitInduction {motive : Text → Prop} (c : CodePoint) (last : ∀ t, c ∉ t → motive t)
    (cons : ∀ s t, c ∉ s → motive t → motive (s ++ c :: t)) (t : Text) : motive t := by
  by_cases h : c ∈ t
  · obtain ⟨s, r, rfl, hs⟩ := List.eq_append_cons_of_mem h
    exact cons s r hs (splitInduction c last cons r)
  · exact last t h
termination_by t.length

/-- The character where a text is split is in none of the pieces. -/
theorem not_mem_of_mem_splitAt {s t : Text} (hs : s ∈ t.splitAt c) : c ∉ s := by
  induction t using splitInduction c with
  | last t h =>
    rw [splitAt_of_not_mem h, List.mem_singleton] at hs
    exact hs ▸ h
  | cons front t h ih =>
    rw [splitAt_append_cons, splitAt_of_not_mem h, List.singleton_append, List.mem_cons] at hs
    rcases hs with rfl | hs
    · exact h
    · exact ih hs

theorem mem_of_mem_splitAt {x : CodePoint} {s t : Text} (hs : s ∈ t.splitAt c) (hx : x ∈ s) :
    x ∈ t := by
  induction t using splitInduction c with
  | last t h =>
    rw [splitAt_of_not_mem h, List.mem_singleton] at hs
    exact hs ▸ hx
  | cons front t h ih =>
    rw [splitAt_append_cons, splitAt_of_not_mem h, List.singleton_append, List.mem_cons] at hs
    rcases hs with rfl | hs
    · exact List.mem_append_left _ hx
    · exact List.mem_append_right _ (List.mem_cons_of_mem _ (ih hs))

/-- A joined text consists of the pieces and of what joins them. -/
theorem mem_join {separator : Text} {ts : List Text} {x : CodePoint} (h : x ∈ join separator ts) :
    x ∈ separator ∨ ∃ t ∈ ts, x ∈ t := by
  induction ts with
  | nil => cases h
  | cons t ts ih =>
    match ts with
    | [] =>
      rw [join, List.intercalate_singleton] at h
      exact .inr ⟨t, List.mem_singleton_self t, h⟩
    | t' :: ts =>
      rw [join, List.intercalate_cons_cons, List.append_assoc] at h
      rcases List.mem_append.1 h with h | h
      · exact .inr ⟨t, List.mem_cons_self, h⟩
      · rcases List.mem_append.1 h with h | h
        · exact .inl h
        · exact (ih h).imp_right fun ⟨s, hs, hx⟩ => ⟨s, List.mem_cons_of_mem _ hs, hx⟩

theorem cut?_append_cons {s : Text} (h : c ∉ s) (t : Text) :
    cut? c (s ++ c :: t) = some (s, t) := by
  induction s with
  | nil => rw [List.nil_append, cut?, if_pos rfl]
  | cons x s ih =>
    rw [List.mem_cons, not_or] at h
    rw [List.cons_append, cut?, if_neg (Ne.symm h.1), ih h.2]
    rfl

theorem cut?_of_not_mem {t : Text} (h : c ∉ t) : cut? c t = none := by
  induction t with
  | nil => rfl
  | cons x t ih =>
    rw [List.mem_cons, not_or] at h
    rw [cut?, if_neg (Ne.symm h.1), ih h.2]
    rfl

theorem append_of_cut? {t front behind : Text} (h : cut? c t = some (front, behind)) :
    t = front ++ c :: behind := by
  by_cases hc : c ∈ t
  · obtain ⟨s, r, rfl, hs⟩ := List.eq_append_cons_of_mem hc
    rw [cut?_append_cons hs] at h
    obtain ⟨rfl, rfl⟩ := Prod.mk.inj (Option.some.inj h)
    rfl
  · rw [cut?_of_not_mem hc] at h
    cases h

/-! ### Digits -/

theorem isDigit_of_mem_ofNat {n : Nat} (h : c ∈ ofNat n) : c.isDigit = true := by
  obtain ⟨x, hx, rfl⟩ := List.mem_map.1 h
  exact Nat.isDigit_of_mem_toDigits (by decide) (by decide) hx

theorem mem_ofInt {n : Int} (hc : c ∈ ofInt n) : c = .scalar '-' ∨ c.isDigit = true := by
  cases n with
  | ofNat n => exact .inr (isDigit_of_mem_ofNat hc)
  | negSucc n => exact (List.mem_cons.1 hc).imp_right isDigit_of_mem_ofNat

theorem toNat_of_isDigit (h : c.isDigit = true) : 48 ≤ c.toNat ∧ c.toNat ≤ 57 := by
  cases c with
  | scalar c => exact Char.isDigit_iff_toNat.1 h
  | surrogate => cases h

theorem isAscii_of_isDigit (h : c.isDigit = true) : c.isAscii = true := by
  have hcode := toNat_of_isDigit h
  exact decide_eq_true (by omega)

/-! ### Scalar values -/

theorem isScalar_of_subset {s t : Text} (hs : s ⊆ t) (ht : t.isScalar = true) :
    s.isScalar = true :=
  List.all_eq_true.2 fun c hc => List.all_eq_true.1 ht c (hs hc)

theorem isScalar_of_isAscii {t : Text} (h : ∀ c ∈ t, c.isAscii = true) : t.isScalar = true := by
  refine List.all_eq_true.2 fun c hc => ?_
  cases c with
  | scalar c => rfl
  | surrogate offset =>
    have hlt : 0xD800 + offset.val < 0x80 := of_decide_eq_true (h _ hc)
    omega

end JsonApi.Text
