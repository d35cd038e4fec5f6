import JsonApi.Proofs.Text
import JsonApi.Text.Case

/-!
# Lower case

Neither of the ways to put a text into lower case leaves capitals of ASCII in it, and the one that
looks at ASCII only leaves all other characters alone.
-/

namespace JsonApi

namespace CodePoint

variable {c d : CodePoint}

/-- Whether a character is a capital letter of ASCII. -/
def isCapital (c : CodePoint) : Bool := 65 ≤ c.toNat && c.toNat ≤ 90

/-- A character, a capital of ASCII in lower case. -/
def asciiLower : CodePoint → CodePoint
  | .scalar c => .scalar c.toLower
  | .surrogate offset => .surrogate offset

theorem isCapital_eq_false_iff : c.isCapital = false ↔ ¬ (65 ≤ c.toNat ∧ c.toNat ≤ 90) := by
  rw [isCapital, ← Bool.not_eq_true, Bool.and_eq_true, decide_eq_true_eq, decide_eq_true_eq]

theorem asciiLower_of_small (h : c.isCapital = false) : c.asciiLower = c := by
  rw [isCapital_eq_false_iff] at h
  cases c with
  | surrogate => rfl
  | scalar c =>
    refine congrArg scalar (dif_neg fun hcapital => h ?_)
    exact ⟨UInt32.le_iff_toNat_le.1 hcapital.1, UInt32.le_iff_toNat_le.1 hcapital.2⟩

theorem toNat_asciiLower (h : c.isCapital = true) : c.asciiLower.toNat = c.toNat + 32 := by
  rw [isCapital, Bool.and_eq_true, decide_eq_true_eq, decide_eq_true_eq] at h
  cases c with
  | surrogate offset =>
    simp only [toNat] at h
    omega
  | scalar c =>
    have hcapital : c.val ≥ 'A'.val ∧ c.val ≤ 'Z'.val :=
      ⟨UInt32.le_iff_toNat_le.2 h.1, UInt32.le_iff_toNat_le.2 h.2⟩
    have hlower : c.toLower.val = c.val + ('a'.val - 'A'.val) :=
      congrArg Char.val (dif_pos hcapital)
    simp only [asciiLower, toNat, Char.toNat] at h ⊢
    rw [hlower, UInt32.toNat_add, show ('a'.val - 'A'.val).toNat = 32 from rfl]
    omega

theorem isCapital_asciiLower (c : CodePoint) : c.asciiLower.isCapital = false := by
  cases h : c.isCapital with
  | false => rw [asciiLower_of_small h, h]
  | true =>
    rw [isCapital_eq_false_iff, toNat_asciiLower h]
    rw [isCapital, Bool.and_eq_true, decide_eq_true_eq, decide_eq_true_eq] at h
    omega

theorem isCapital_ofNat {n : Nat} (h : ¬ (65 ≤ n ∧ n ≤ 90)) : (ofNat n).isCapital = false := by
  rw [isCapital_eq_false_iff, ofNat]
  split
  · simp only [toNat]
    omega
  · by_cases hvalid : n.isValidChar
    · have hchar : Char.ofNat n = Char.ofNatAux n hvalid := dif_pos hvalid
      rw [hchar]
      exact h
    · have hchar : Char.ofNat n = Char.ofNatAux 0 (by decide) := dif_neg hvalid
      rw [hchar]
      decide

theorem isAscii_asciiLower (c : CodePoint) : c.asciiLower.isAscii = c.isAscii := by
  cases h : c.isCapital with
  | false => rw [asciiLower_of_small h]
  | true =>
    rw [isAscii, isAscii, toNat_asciiLower h]
    rw [isCapital, Bool.and_eq_true, decide_eq_true_eq, decide_eq_true_eq] at h
    exact decide_eq_decide.2 (by omega)

/-- What is no letter stays the only character that becomes itself. -/
theorem asciiLower_eq_iff (hd : ¬ (97 ≤ d.toNat ∧ d.toNat ≤ 122)) (hd' : d.isCapital = false) :
    c.asciiLower = d ↔ c = d := by
  cases h : c.isCapital with
  | false => rw [asciiLower_of_small h]
  | true =>
    have hnat := toNat_asciiLower h
    rw [isCapital, Bool.and_eq_true, decide_eq_true_eq, decide_eq_true_eq] at h
    rw [isCapital_eq_false_iff] at hd'
    constructor
    · rintro rfl
      omega
    · rintro rfl
      omega

end CodePoint

namespace Text

variable {t : Text} {c : CodePoint}

theorem asciiLower_eq_map (t : Text) : t.asciiLower = t.map CodePoint.asciiLower := rfl

theorem asciiLower_of_small (h : ∀ c ∈ t, c.isCapital = false) : t.asciiLower = t :=
  (List.map_congr_left fun c hc => CodePoint.asciiLower_of_small (h c hc)).trans (List.map_id t)

theorem isCapital_of_mem_asciiLower (h : c ∈ t.asciiLower) : c.isCapital = false := by
  obtain ⟨d, -, rfl⟩ := List.mem_map.1 h
  exact d.isCapital_asciiLower

theorem asciiLower_asciiLower (t : Text) : t.asciiLower.asciiLower = t.asciiLower :=
  asciiLower_of_small fun _ => isCapital_of_mem_asciiLower

theorem all_isAscii_asciiLower (t : Text) :
    t.asciiLower.all CodePoint.isAscii = t.all CodePoint.isAscii := by
  rw [asciiLower_eq_map, List.all_map]
  exact congrArg t.all (funext CodePoint.isAscii_asciiLower)

/-- Pieces of a text in lower case are its pieces in lower case. -/
theorem splitAt_asciiLower (hc : ¬ (97 ≤ c.toNat ∧ c.toNat ≤ 122)) (hc' : c.isCapital = false)
    (t : Text) : t.asciiLower.splitAt c = (t.splitAt c).map asciiLower := by
  induction t with
  | nil => rfl
  | cons x t ih =>
    rw [asciiLower_eq_map] at ih ⊢
    rw [List.map_cons, splitAt, splitAt, ih]
    by_cases hx : x = c
    · rw [if_pos hx, if_pos ((CodePoint.asciiLower_eq_iff hc hc').2 hx)]
      rfl
    · rw [if_neg hx, if_neg (mt (CodePoint.asciiLower_eq_iff hc hc').1 hx)]
      cases Text.splitAt c t <;> rfl

namespace Case

/-- A mapping leads to code points with a property when each of its tables does, and keeps to it
where it names nothing. -/
theorem forall_mem_mapCode {p : CodePoint → Prop} {shifts : List Shift}
    {sequences : List (Nat × List Nat)} {n : Nat}
    (hsequences : ∀ e ∈ sequences, ∀ m ∈ e.2, p (.ofNat m))
    (hshifts : ∀ s ∈ shifts, s.first ≤ n → n ≤ s.last → p (.ofNat ((n : Int) + s.amount).toNat))
    (hn : p (.ofNat n)) : ∀ c ∈ mapCode shifts sequences n, p c := by
  intro c h
  unfold mapCode at h
  split at h
  · rename_i codes hcodes
    obtain ⟨before, after, htable, -⟩ := List.lookup_eq_some_iff.1 hcodes
    obtain ⟨m, hm, rfl⟩ := List.mem_map.1 h
    exact hsequences (n, codes) (htable ▸ List.mem_append_right _ List.mem_cons_self) m hm
  · rename_i m hm
    obtain ⟨s, hs, hmoved⟩ := List.exists_of_findSome?_eq_some hm
    unfold Shift.moved? at hmoved
    split at hmoved
    · rename_i hrange
      obtain rfl := Option.some.inj hmoved
      rw [List.mem_singleton.1 h]
      exact hshifts s hs hrange.1 hrange.2.1
    · cases hmoved
  · rw [List.mem_singleton.1 h]
    exact hn

theorem isCapital_of_mem_mapCode {n : Nat} (hn : 0x80 ≤ n)
    (h : c ∈ mapCode lowerShifts lowerSequences n) : c.isCapital = false := by
  -- the tables lead past the capitals, even from letters far away
  have hshifts : ∀ s ∈ lowerShifts, 91 ≤ (s.first : Int) + s.amount := by decide +kernel
  have hsequences : ∀ p ∈ lowerSequences, ∀ m ∈ p.2, 91 ≤ m := by decide
  refine forall_mem_mapCode (p := fun c => c.isCapital = false) (fun e he m hm => ?_)
    (fun s hs hfirst _ => ?_) ?_ c h
  · have := hsequences e he m hm
    exact CodePoint.isCapital_ofNat (by omega)
  · have := hshifts s hs
    exact CodePoint.isCapital_ofNat (by omega)
  · exact CodePoint.isCapital_ofNat (by omega)

theorem isCapital_of_mem_lowerBetween {before after : Text} {x : CodePoint}
    (h : c ∈ lowerBetween before x after) : c.isCapital = false := by
  cases x with
  | surrogate offset =>
    rw [List.mem_singleton.1 h, CodePoint.isCapital_eq_false_iff, CodePoint.toNat]
    omega
  | scalar x =>
    rw [lowerBetween] at h
    split at h
    · rw [List.mem_singleton.1 h]
      exact (CodePoint.scalar x).isCapital_asciiLower
    · rename_i hascii
      split at h
      · rw [List.mem_singleton.1 h]
        split <;> decide
      · refine isCapital_of_mem_mapCode ?_ h
        rwa [CodePoint.isAscii, decide_eq_true_eq, CodePoint.toNat, Nat.not_lt] at hascii

theorem isCapital_of_mem_lowerFrom {before : Text} (h : c ∈ lowerFrom before t) :
    c.isCapital = false := by
  induction t generalizing before with
  | nil => cases h
  | cons x t ih => exact (List.mem_append.1 h).elim isCapital_of_mem_lowerBetween ih

theorem mapCode_ne_nil {shifts : List Shift} {sequences : List (Nat × List Nat)} {n : Nat}
    (hsequences : ∀ e ∈ sequences, e.2 ≠ []) : mapCode shifts sequences n ≠ [] := by
  unfold mapCode
  split
  · rename_i codes hcodes
    obtain ⟨before, after, htable, -⟩ := List.lookup_eq_some_iff.1 hcodes
    have hne := hsequences (n, codes) (htable ▸ List.mem_append_right _ List.mem_cons_self)
    exact mt List.map_eq_nil_iff.1 hne
  · exact List.cons_ne_nil _ _
  · exact List.cons_ne_nil _ _

theorem lowerBetween_ne_nil (before : Text) (x : CodePoint) (after : Text) :
    lowerBetween before x after ≠ [] := by
  have hsequences : ∀ e ∈ lowerSequences, e.2 ≠ [] := by decide
  unfold lowerBetween
  split
  · exact List.cons_ne_nil _ _
  · split
    · exact List.cons_ne_nil _ _
    · split
      · exact List.cons_ne_nil _ _
      · exact mapCode_ne_nil hsequences

end Case

/-- Lower case leaves something of every code point. -/
theorem lower_ne_nil (h : t ≠ []) : t.lower ≠ [] := by
  obtain ⟨c, rest, rfl⟩ := List.exists_cons_of_ne_nil h
  rw [lower, Case.lowerFrom]
  exact List.append_ne_nil_of_left_ne_nil (Case.lowerBetween_ne_nil _ _ _) _

theorem isCapital_of_mem_lower (h : c ∈ t.lower) : c.isCapital = false :=
  Case.isCapital_of_mem_lowerFrom h

end Text

end JsonApi
