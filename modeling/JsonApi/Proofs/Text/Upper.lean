import JsonApi.Proofs.Text
import JsonApi.Text.Case

/-!
# Upper case

The upper case of a text is in upper case: no table of the mapping leads to a code that a table maps
to another one (`Text.upper_upper`).
-/

namespace JsonApi

namespace Text

namespace Case

/-! ### Where shifts lead -/

namespace Shift

/-- The code that a shift leads to from a code it covers. -/
def target (s : Shift) (n : Nat) : Nat := ((n : Int) + s.amount).toNat

/-- The shift that covers nothing but one code, which stays. -/
def single (n : Nat) : Shift := ⟨n, n, 1, 0⟩

/-- Whether a shift leads past all codes that another one covers.  Where it leads among them, they
are every other code, and it leads to those in between. -/
def misses (s t : Shift) : Bool :=
  Nat.blt t.last (s.target s.first) || Nat.blt (s.target s.last) t.first ||
    (t.step == 2 && (s.step == 2 || s.first == s.last) &&
      (s.target s.first + t.first) % 2 == 1)

theorem moved?_eq_some_iff {s : Shift} {n m : Nat} : s.moved? n = some m ↔
    (s.first ≤ n ∧ n ≤ s.last ∧ (n - s.first) % s.step = 0) ∧ s.target n = m := by
  rw [moved?, target]
  split_ifs with h <;> simp [h]

theorem moved?_eq_none_iff {s : Shift} {n : Nat} :
    s.moved? n = none ↔ ¬ (s.first ≤ n ∧ n ≤ s.last ∧ (n - s.first) % s.step = 0) := by
  rw [moved?]
  split_ifs with h <;> simp [h]

theorem moved?_single (n : Nat) : (single n).moved? n = some n := by
  simp [moved?, single]

/-- What a shift leads to is not covered by a shift that it misses. -/
theorem moved?_of_misses {s t : Shift} {n m : Nat} (hfirst : 0 ≤ s.first + s.amount)
    (h : s.misses t = true) (hs : s.moved? n = some m) : t.moved? m = none := by
  obtain ⟨⟨hge, hle, hstep⟩, rfl⟩ := moved?_eq_some_iff.1 hs
  rw [moved?_eq_none_iff]
  rintro ⟨hge', hle', hstep'⟩
  simp only [misses, target, Bool.or_eq_true, Bool.and_eq_true, Nat.blt_eq, beq_iff_eq] at h
  obtain (h | h) | ⟨⟨htwo, hstep₂⟩, hparity⟩ := h
  · simp only [target] at hle'
    omega
  · simp only [target] at hge'
    omega
  · rw [htwo] at hstep'
    simp only [target] at hstep' hge'
    rcases hstep₂ with hstep₂ | hsame
    · rw [hstep₂] at hstep
      omega
    · omega

end Shift

/-- What upper case leads to: by shifts, and in sequences. -/
def landings : List Shift :=
  upperShifts ++ upperSequences.flatMap fun e => e.2.map Shift.single

/-- What upper case leads away from: the small letters of ASCII, and the codes of the tables. -/
def departures : List Shift :=
  ⟨97, 122, 1, -32⟩ :: upperShifts ++ upperSequences.map fun e => Shift.single e.1

theorem first_add_amount_nonneg : ∀ s ∈ landings, 0 ≤ s.first + s.amount := by decide +kernel

theorem misses_of_mem : (landings.all fun s => departures.all s.misses) = true := by
  decide +kernel

/-- A code that upper case does not lead away from. -/
def IsUpper (n : Nat) : Prop := ∀ t ∈ departures, t.moved? n = none

theorem isUpper_of_landing {s : Shift} {n m : Nat} (hs : s ∈ landings) (h : s.moved? n = some m) :
    IsUpper m := by
  intro t ht
  have hmisses := List.all_eq_true.1 (List.all_eq_true.1 misses_of_mem s hs) t ht
  exact Shift.moved?_of_misses (first_add_amount_nonneg s hs) hmisses h

namespace IsUpper

variable {n : Nat}

theorem not_small (h : IsUpper n) : ¬ (97 ≤ n ∧ n ≤ 122) := by
  intro hn
  have hmoved := Shift.moved?_eq_none_iff.1 (h _ List.mem_cons_self)
  exact hmoved ⟨hn.1, hn.2, Nat.mod_one _⟩

theorem mapCode_eq (h : IsUpper n) : mapCode upperShifts upperSequences n = [.ofNat n] := by
  have hlookup : upperSequences.lookup n = none := by
    refine List.lookup_eq_none_iff.2 fun e he => bne_iff_ne.2 ?_
    rintro rfl
    have hmoved := h (Shift.single e.1)
      (List.mem_append_right _ (List.mem_map_of_mem he))
    rw [Shift.moved?_single] at hmoved
    cases hmoved
  have hshifts : upperShifts.findSome? (·.moved? n) = none :=
    List.findSome?_eq_none_iff.2 fun s hs =>
      h s (List.mem_append_left _ (List.mem_cons_of_mem _ hs))
  rw [mapCode, hlookup, hshifts]

end IsUpper

end Case

/-! ### Code points -/

/-- The upper case of a code point. -/
def upperPoint : CodePoint → Text
  | .surrogate offset => [.surrogate offset]
  | .scalar c =>
    if c.toNat < 0x80 then [.scalar c.toUpper]
    else Case.mapCode Case.upperShifts Case.upperSequences c.toNat

theorem upper_eq_flatMap (t : Text) : t.upper = t.flatMap upperPoint := by
  refine List.flatMap_congr fun c _ => ?_
  cases c <;> rfl

theorem toUpper_of_not_small {c : Char} (h : ¬ (97 ≤ c.toNat ∧ c.toNat ≤ 122)) : c.toUpper = c := by
  refine dif_neg fun hsmall => h ?_
  exact ⟨UInt32.le_iff_toNat_le.1 hsmall.1, UInt32.le_iff_toNat_le.1 hsmall.2⟩

/-- The upper case of a letter of ASCII is in upper case. -/
theorem upperPoint_toUpper :
    ∀ n < 0x80, upperPoint (.scalar (Char.ofNat n).toUpper) = [.scalar (Char.ofNat n).toUpper] := by
  decide

theorem upperPoint_ofNat {n : Nat} (h : Case.IsUpper n) :
    upperPoint (.ofNat n) = [.ofNat n] := by
  rw [CodePoint.ofNat]
  split_ifs with hhalf
  · rfl
  · by_cases hvalid : n.isValidChar
    · have hcode : (Char.ofNat n).toNat = n := congrArg Char.toNat (dif_pos hvalid)
      rw [upperPoint, hcode, toUpper_of_not_small (hcode.symm ▸ h.not_small), h.mapCode_eq,
        CodePoint.ofNat, dif_neg hhalf]
      exact ite_self _
    · have hchar : Char.ofNat n = '\x00' := dif_neg hvalid
      rw [hchar]
      rfl

theorem upperPoint_of_mem_mapCode {c : Char} {d : CodePoint} (hc : ¬ c.toNat < 0x80)
    (h : d ∈ Case.mapCode Case.upperShifts Case.upperSequences c.toNat) : upperPoint d = [d] := by
  unfold Case.mapCode at h
  split at h
  · rename_i codes hcodes
    obtain ⟨before, after, htable, -⟩ := List.lookup_eq_some_iff.1 hcodes
    obtain ⟨m, hm, rfl⟩ := List.mem_map.1 h
    have hentry : (c.toNat, codes) ∈ Case.upperSequences :=
      htable ▸ List.mem_append_right _ List.mem_cons_self
    have hlanding : Case.Shift.single m ∈ Case.landings :=
      List.mem_append_right _ (List.mem_flatMap.2 ⟨_, hentry, List.mem_map_of_mem hm⟩)
    exact upperPoint_ofNat (Case.isUpper_of_landing hlanding (Case.Shift.moved?_single m))
  · rename_i m hm
    obtain ⟨s, hs, hmoved⟩ := List.exists_of_findSome?_eq_some hm
    rw [List.mem_singleton.1 h]
    exact upperPoint_ofNat (Case.isUpper_of_landing (List.mem_append_left _ hs) hmoved)
  · rename_i hlookup hshifts
    have hd : d = .scalar c := (List.mem_singleton.1 h).trans (CodePoint.ofNat_toNat (.scalar c))
    rw [hd, upperPoint, if_neg hc, Case.mapCode, hlookup, hshifts]
    exact congrArg ([·]) (CodePoint.ofNat_toNat (.scalar c))

/-- Upper case leads to code points that it leaves alone. -/
theorem upperPoint_of_mem {c d : CodePoint} (h : d ∈ upperPoint c) : upperPoint d = [d] := by
  cases c with
  | surrogate offset =>
    rw [List.mem_singleton.1 h]
    rfl
  | scalar c =>
    rw [upperPoint] at h
    split_ifs at h with hc
    · rw [List.mem_singleton.1 h, ← Char.ofNat_toNat c]
      exact upperPoint_toUpper c.toNat hc
    · exact upperPoint_of_mem_mapCode hc h

/-- **Upper case is upper case of itself.** -/
theorem upper_upper (t : Text) : t.upper.upper = t.upper := by
  rw [upper_eq_flatMap, upper_eq_flatMap, List.flatMap_assoc]
  refine List.flatMap_congr fun c _ => ?_
  calc (upperPoint c).flatMap upperPoint
      = (upperPoint c).flatMap ([·]) := List.flatMap_congr fun _ => upperPoint_of_mem
    _ = upperPoint c := List.flatMap_singleton' _

end Text

end JsonApi
