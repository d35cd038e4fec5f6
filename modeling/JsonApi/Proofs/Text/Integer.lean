import JsonApi.Proofs.Except
import JsonApi.Proofs.Text
import JsonApi.Text.Integer
import Mathlib.Data.List.TakeWhile

/-!
# Integers are read back

The decimal form of an integer spells that integer if it has no more digits than are read
(`Text.integer_ofInt`).  An integer that was read has no more digits than that, however it was
written (`Text.natAbs_lt_of_integer`).
-/

namespace JsonApi

namespace Text

variable {t whole : Text} {c : CodePoint} {n : Nat}

/-! ### Digits -/

theorem digitIn?_of_isDigit (h : c.isDigit = true) : digitIn? 10 c = some (c.toNat - 48) := by
  have hbounds := toNat_of_isDigit h
  cases c with
  | surrogate => cases h
  | scalar c =>
    rw [CodePoint.toNat] at hbounds
    have hc : '0' ≤ c ∧ c ≤ '9' := by
      simp only [Char.le_def, UInt32.le_iff_toNat_le]
      exact hbounds
    rw [digitIn?, CodePoint.hexDigit?, if_pos hc, Option.filter_some, if_pos]
    · rfl
    · rw [decide_eq_true_eq]
      omega

theorem lt_of_digitIn? {base d : Nat} (h : digitIn? base c = some d) : d < base :=
  of_decide_eq_true (Option.filter_eq_some_iff.1 h).2

theorem foldl_digits_lt {ds : List Nat} (hds : ∀ d ∈ ds, d < 10) :
    ds.foldl (fun n d => n * 10 + d) n < (n + 1) * 10 ^ ds.length := by
  induction ds generalizing n with
  | nil => simp
  | cons d ds ih =>
    obtain ⟨hd, hds⟩ := List.forall_mem_cons.1 hds
    calc (d :: ds).foldl (fun n d => n * 10 + d) n
        < (n * 10 + d + 1) * 10 ^ ds.length := ih hds
      _ ≤ (n + 1) * 10 * 10 ^ ds.length := Nat.mul_le_mul_right _ (by omega)
      _ = (n + 1) * 10 ^ (d :: ds).length := by
        rw [List.length_cons, Nat.pow_succ', Nat.mul_assoc]

theorem foldl_ofChars {cs : List Char} (hcs : ∀ c ∈ cs, c.isDigit = true) :
    ((ofChars cs).filterMap (digitIn? 10)).foldl (fun n d => n * 10 + d) n =
      Nat.ofDigitChars 10 cs n := by
  induction cs generalizing n with
  | nil => rfl
  | cons c cs ih =>
    obtain ⟨hc, hcs⟩ := List.forall_mem_cons.1 hcs
    have hdigit : digitIn? 10 (.scalar c) = some (c.toNat - 48) := digitIn?_of_isDigit hc
    rw [ofChars, List.map_cons, List.filterMap_cons_some hdigit, List.foldl_cons, ← ofChars, ih hcs,
      Nat.ofDigitChars_cons, Nat.mul_comm n]
    rfl

theorem underscoresJoin_of_not_mem {isDigit : CodePoint → Bool} (h : .scalar '_' ∉ t)
    (afterDigit : Bool) : underscoresJoin isDigit afterDigit t = true := by
  fun_induction underscoresJoin isDigit afterDigit t with
  | case1 => rfl
  | case2 => exact decide_eq_true fun hc => h (List.mem_singleton.2 hc.symm)
  | case3 afterDigit c d t ih =>
    rw [List.mem_cons, not_or] at h
    rw [ih h.2, Bool.and_true, Bool.or_eq_true]
    exact .inl (decide_eq_true (Ne.symm h.1))

/-! ### Natural numbers -/

/-- What a run of digits and underscores spells: the number of its digits, not too many of them. -/
theorem natural_eq_ok_iff : natural 10 whole t = .ok n ↔
    (∀ c ∈ t, ((digitIn? 10 c).isSome || decide (c = .scalar '_')) = true) ∧ t ≠ [] ∧
      underscoresJoin (fun c => (digitIn? 10 c).isSome) false t = true ∧
      (t.filterMap (digitIn? 10)).length ≤ integerDigits ∧
      (t.filterMap (digitIn? 10)).foldl (fun n d => n * 10 + d) 0 = n := by
  rw [← List.takeWhile_eq_self_iff]
  simp only [natural, Nat.reduceEqDiff, ↓reduceIte, true_and]
  constructor
  · intro h
    split_ifs at h with hjoin hlength hrun
    obtain ⟨hne, hrun⟩ := not_or.1 hrun
    rw [not_not] at hrun
    rw [hrun] at h hjoin hlength hne
    exact ⟨hrun, hne, by simpa using hjoin, Nat.not_lt.1 hlength, Except.ok.inj h⟩
  · rintro ⟨hrun, hne, hjoin, hlength, hfold⟩
    rw [hrun, hjoin, hfold, if_neg (by decide), if_neg (Nat.not_lt.2 hlength),
      if_neg (not_or.2 ⟨hne, not_not.2 rfl⟩)]

theorem lt_of_natural (h : natural 10 whole t = .ok n) : n < 10 ^ integerDigits := by
  obtain ⟨-, -, -, hlength, rfl⟩ := natural_eq_ok_iff.1 h
  have hvalues : ∀ d ∈ t.filterMap (digitIn? 10), d < 10 := fun d hd => by
    obtain ⟨c, -, hc⟩ := List.mem_filterMap.1 hd
    exact lt_of_digitIn? hc
  have hfold := foldl_digits_lt (n := 0) hvalues
  rw [Nat.zero_add, Nat.one_mul] at hfold
  exact Nat.lt_of_lt_of_le hfold (Nat.pow_le_pow_right (by decide) hlength)

theorem ofNat_ne_nil (n : Nat) : ofNat n ≠ [] := by
  rw [ofNat, ofChars, Ne, List.map_eq_nil_iff]
  exact Nat.toDigits_ne_nil

theorem natural_ofNat (h : n < 10 ^ integerDigits) (whole : Text) :
    natural 10 whole (ofNat n) = .ok n := by
  have hdigit : ∀ c ∈ ofNat n, c.isDigit = true := fun _ => isDigit_of_mem_ofNat
  refine natural_eq_ok_iff.2 ⟨fun c hc => ?_, ?_, ?_, ?_, ?_⟩
  · rw [digitIn?_of_isDigit (hdigit c hc), Option.isSome_some, Bool.true_or]
  · exact ofNat_ne_nil n
  · exact underscoresJoin_of_not_mem (fun hmem => Bool.noConfusion (hdigit _ hmem)) false
  · refine Nat.le_trans (List.length_filterMap_le _ _) ?_
    rw [ofNat, length_ofChars]
    exact (Nat.length_toDigits_le_iff (by decide) (by decide)).2 h
  · rw [ofNat, foldl_ofChars fun c => Nat.isDigit_of_mem_toDigits (by decide) (by decide),
      Nat.ofDigitChars_ten_toDigits]

/-! ### Integers -/

theorem trim_of_forall {p : CodePoint → Bool} (h : ∀ c ∈ t, p c = false) : trim p t = t := by
  have hdrop : ∀ s : Text, (∀ c ∈ s, p c = false) → s.dropWhile p = s := fun s hs =>
    List.dropWhile_eq_self_iff.2 fun _ => by rw [hs _ (List.getElem_mem _)]; decide
  rw [trim, hdrop t h, hdrop _ fun c hc => h c (List.mem_reverse.1 hc), List.reverse_reverse]

theorem withAsciiDigits_of_forall (h : ∀ c ∈ t, c.isAscii = true) : withAsciiDigits t = t := by
  refine (List.map_congr_left fun c hc => ?_).trans (List.map_id t)
  rw [digit?, if_pos (of_decide_eq_true (h c hc))]
  split_ifs with hdigit
  · have hcode : 48 + (c.toNat - 48) = c.toNat := by omega
    rw [Option.map_some, Option.getD_some, hcode, CodePoint.ofNat_toNat]
    rfl
  · rfl

/-- The decimal form of an integer is the minus sign and the digits that are looked for. -/
theorem unsigned_ofInt (n : Int) :
    unsigned (withAsciiDigits (trim CodePoint.isWhiteSpace (ofInt n))) =
      (decide (n < 0), ofNat n.natAbs) := by
  have hplain : ∀ c ∈ ofInt n, c.isAscii = true ∧ c.isWhiteSpace = false := by
    intro c hc
    rcases mem_ofInt hc with rfl | hdigit
    · decide
    · have hbounds := toNat_of_isDigit hdigit
      refine ⟨isAscii_of_isDigit hdigit, ?_⟩
      simp only [CodePoint.isWhiteSpace, Bool.or_eq_false_iff, Bool.and_eq_false_iff,
        decide_eq_false_iff_not, beq_eq_false_iff_ne]
      omega
  rw [trim_of_forall fun c hc => (hplain c hc).2,
    withAsciiDigits_of_forall fun c hc => (hplain c hc).1]
  cases n with
  | negSucc n =>
    rw [decide_eq_true (Int.negSucc_lt_zero n)]
    rfl
  | ofNat n =>
    have hsign : decide (Int.ofNat n < 0) = false :=
      decide_eq_false (Int.not_lt.2 (Int.natCast_nonneg n))
    rw [hsign]
    change unsigned (ofNat n) = (false, ofNat n)
    -- no digit is a sign
    have hdigit : ∀ c ∈ ofNat n, c.isDigit = true := fun _ => isDigit_of_mem_ofNat
    unfold unsigned
    split
    · rename_i heq
      exact Bool.noConfusion (hdigit _ (heq ▸ List.mem_cons_self))
    · rename_i heq
      exact Bool.noConfusion (hdigit _ (heq ▸ List.mem_cons_self))
    · rfl

theorem ofInt_ne_nil (n : Int) : ofInt n ≠ [] := by
  cases n with
  | ofNat n => exact ofNat_ne_nil n
  | negSucc n => exact List.cons_ne_nil _ _

theorem integer_eq_ok_iff {n : Int} : integer 10 t = .ok n ↔
    ∃ m : Nat, natural 10 t (unsigned (withAsciiDigits (trim CodePoint.isWhiteSpace t))).2 = .ok m ∧
      (if (unsigned (withAsciiDigits (trim CodePoint.isWhiteSpace t))).1 then -(m : Int) else m) =
        n := by
  unfold integer
  dsimp only
  cases natural 10 t (unsigned (withAsciiDigits (trim CodePoint.isWhiteSpace t))).2 with
  | error e => exact iff_of_false (fun h => nomatch h) fun ⟨_, h, _⟩ => nomatch h
  | ok m =>
    constructor
    · intro h
      exact ⟨m, rfl, Except.ok.inj h⟩
    · rintro ⟨_, ⟨⟩, h⟩
      exact congrArg Except.ok h

/-- **The decimal form of an integer spells it**, unless it has more digits than are read. -/
theorem integer_ofInt {n : Int} (h : n.natAbs < 10 ^ integerDigits) :
    integer 10 (ofInt n) = .ok n := by
  rw [integer_eq_ok_iff, unsigned_ofInt]
  refine ⟨n.natAbs, natural_ofNat h _, ?_⟩
  dsimp only
  split_ifs with hneg <;> simp at hneg <;> omega

theorem natAbs_lt_of_integer {n : Int} (h : integer 10 t = .ok n) :
    n.natAbs < 10 ^ integerDigits := by
  obtain ⟨m, hm, rfl⟩ := integer_eq_ok_iff.1 h
  have hlt := lt_of_natural hm
  split_ifs <;> simpa using hlt

end Text

end JsonApi
