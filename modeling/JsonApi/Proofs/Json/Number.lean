import JsonApi.Json.Writer
import JsonApi.Proofs.Double.Shortest
import JsonApi.Proofs.Json.Numeral

/-!
# Numbers as they are written

Integers and finite doubles are written as well-formed numerals whose values they are:

* `Numeral.value_ofInt` : the numeral of an integer that is not too long;
* `exists_numeral` : the numeral of a finite double, whichever notation its decimal calls for.
-/

namespace JsonApi

namespace Text

theorem areDigits_toDigits (n : Nat) : Json.Numeral.AreDigits (Nat.toDigits 10 n) :=
  ⟨Nat.toDigits_ne_nil, fun _ hc => Nat.isDigit_of_mem_toDigits (by decide) (by decide) hc⟩

theorem head_toDigits_ne_zero {n : Nat} (h : n ≠ 0) : (Nat.toDigits 10 n).head? ≠ some '0' := by
  induction n using Nat.strongRecOn with
  | ind n ih =>
    rw [Nat.toDigits_eq_if (by decide)]
    split_ifs with hn
    · have : ∀ d < 10, d ≠ 0 → Nat.digitChar d ≠ '0' := by decide
      simpa using this n hn h
    · have hrest := ih (n / 10) (by omega) (by omega)
      obtain ⟨c, cs, hc⟩ := List.exists_cons_of_ne_nil (Nat.toDigits_ne_nil (n := n / 10) (b := 10))
      rw [hc] at hrest ⊢
      exact hrest

theorem toDigits_of_head {n : Nat} (h : (Nat.toDigits 10 n).head? = some '0') :
    Nat.toDigits 10 n = ['0'] := by
  by_cases hn : n = 0
  · subst hn; rfl
  · exact absurd h (head_toDigits_ne_zero hn)

end Text

namespace Json

namespace Numeral

/-! ### Integers -/

/-- The numeral of an integer. -/
def ofInt (n : Int) : Numeral := ⟨decide (n < 0), Nat.toDigits 10 n.natAbs, none, none⟩

theorem text_ofInt (n : Int) : (ofInt n).text = Text.ofInt n := by
  cases n with
  | ofNat n =>
    have : ¬ ((n : Int) < 0) := by omega
    simp [ofInt, Numeral.text, magnitudeText, fractionText, exponentText, Text.ofInt, Text.ofNat,
      this]
  | negSucc n =>
    simp [ofInt, Numeral.text, magnitudeText, fractionText, exponentText, Text.ofInt, Text.ofNat,
      Int.negSucc_lt_zero]
    rfl

theorem wellFormed_ofInt (n : Int) : (ofInt n).WellFormed where
  whole := Text.areDigits_toDigits _
  leading := Text.toDigits_of_head
  fraction := nofun
  exponent := nofun

theorem value_ofInt {n : Int} (h : n.natAbs < 10 ^ digitLimit) :
    (ofInt n).value = .ok (.int n) := by
  have hlen : (Nat.toDigits 10 n.natAbs).length ≤ digitLimit :=
    (Nat.length_toDigits_le_iff (by decide) (by decide)).2 h
  simp only [ofInt, value, Nat.not_lt.2 hlen, ↓reduceIte, Nat.ofDigitChars_ten_toDigits]
  congr 2
  split_ifs with hneg <;> simp at hneg <;> omega

/-! ### Doubles -/

/-- The power of ten that an exponent stands for. -/
def power : Option (Bool × List Char) → Int
  | none => 0
  | some (true, ds) => -(Nat.ofDigitChars 10 ds 0 : Int)
  | some (false, ds) => Nat.ofDigitChars 10 ds 0

theorem value_of_fraction (negative : Bool) (whole ds : List Char)
    (e : Option (Bool × List Char)) :
    (Numeral.mk negative whole (some ds) e).value =
      .ok (.float (.ofDecimal negative (Nat.ofDigitChars 10 (whole ++ ds) 0)
        (power e - ds.length))) := by
  match e with
  | none | some (true, _) | some (false, _) => rfl

theorem value_of_exponent (negative : Bool) (whole : List Char) (e : Bool × List Char) :
    (Numeral.mk negative whole none (some e)).value =
      .ok (.float (.ofDecimal negative (Nat.ofDigitChars 10 whole 0) (power (some e)))) := by
  match e with
  | (true, _) | (false, _) => simp [value, power]

/-- A numeral that is written like a decimal and has the double of that decimal as its value. -/
structure Spells (n : Numeral) (d : Decimal) : Prop where
  wellFormed : n.WellFormed
  text : n.magnitudeText = d.text
  value : n.value = .ok (.float (d.toDouble n.negative))

end Numeral

open Numeral

section

variable {d : Decimal} {negative : Bool}

theorem areDigits_append {as bs : List Char} (ha : AreDigits as) (hb : ∀ c ∈ bs, c.isDigit = true) :
    AreDigits (as ++ bs) := by
  refine ⟨by simp [ha.1], fun c hc => ?_⟩
  rcases List.mem_append.1 hc with hc | hc
  · exact ha.2 c hc
  · exact hb c hc

theorem areDigits_zeros_append {as : List Char} (n : Nat) (ha : AreDigits as) :
    AreDigits (List.replicate n '0' ++ as) := by
  refine ⟨by simp [ha.1], fun c hc => ?_⟩
  rcases List.mem_append.1 hc with hc | hc
  · obtain rfl := List.eq_of_mem_replicate hc
    rfl
  · exact ha.2 c hc

theorem areDigits_zero : AreDigits ['0'] := ⟨by simp, by simp⟩

/-- A number below one: zeros behind the point, then the digits. -/
theorem exists_spells_small {k : Nat}
    (hpoint : ((Nat.toDigits 10 d.coefficient).length : Int) + d.exponent = -(k : Int))
    (htext : d.text = Text.ofChars ('0' :: '.' :: (List.replicate k '0' ++
      Nat.toDigits 10 d.coefficient))) :
    ∃ n : Numeral, n.negative = negative ∧ n.Spells d := by
  have hdigits := Text.areDigits_toDigits d.coefficient
  refine ⟨⟨negative, ['0'], some (List.replicate k '0' ++ Nat.toDigits 10 d.coefficient), none⟩,
    rfl, ⟨⟨areDigits_zero, fun _ => rfl, ?_, nofun⟩, ?_, ?_⟩⟩
  · rintro ds ⟨⟩
    exact areDigits_zeros_append k hdigits
  · simp [magnitudeText, fractionText, exponentText, htext, Text.ofChars]
  · rw [value_of_fraction, Decimal.toDouble, Nat.ofDigitChars_append, Nat.ofDigitChars_append,
      Nat.ofDigitChars_cons]
    simp only [Nat.ofDigitChars_nil, Nat.ofDigitChars_replicate_zero]
    congr 3
    · simp
    · simp [power]; omega

theorem head_append_digits_ne_zero (h₀ : d.coefficient ≠ 0) (t : List Char) :
    (Nat.toDigits 10 d.coefficient ++ t).head? ≠ some '0' := by
  have hhead := Text.head_toDigits_ne_zero h₀
  obtain ⟨c, cs, hc⟩ := List.exists_cons_of_ne_nil
    (Nat.toDigits_ne_nil (n := d.coefficient) (b := 10))
  rw [hc] at hhead ⊢
  exact hhead

/-- A whole number: the digits, zeros up to the point, and one zero behind it. -/
theorem exists_spells_whole {k : Nat} (h₀ : d.coefficient ≠ 0)
    (hpoint : ((Nat.toDigits 10 d.coefficient).length : Int) + d.exponent = k)
    (hlen : (Nat.toDigits 10 d.coefficient).length ≤ k)
    (htext : d.text = Text.ofChars (Nat.toDigits 10 d.coefficient ++
      List.replicate (k - (Nat.toDigits 10 d.coefficient).length) '0' ++ ['.', '0'])) :
    ∃ n : Numeral, n.negative = negative ∧ n.Spells d := by
  have hdigits := Text.areDigits_toDigits d.coefficient
  refine ⟨⟨negative, Nat.toDigits 10 d.coefficient ++
    List.replicate (k - (Nat.toDigits 10 d.coefficient).length) '0', some ['0'], none⟩,
    rfl, ⟨⟨?_, fun h => absurd h (head_append_digits_ne_zero h₀ _), ?_, nofun⟩, ?_, ?_⟩⟩
  · refine areDigits_append hdigits fun c hc => ?_
    obtain rfl := List.eq_of_mem_replicate hc
    rfl
  · rintro ds ⟨⟩
    exact areDigits_zero
  · simp [magnitudeText, fractionText, exponentText, htext, Text.ofChars]
  · -- the zeros that are written count in the exponent
    have hzeros : Nat.ofDigitChars 10 (Nat.toDigits 10 d.coefficient ++
        List.replicate (k - (Nat.toDigits 10 d.coefficient).length) '0' ++ ['0']) 0 =
        d.coefficient * 10 ^ (k - (Nat.toDigits 10 d.coefficient).length + 1) := by
      rw [List.append_assoc, ← List.replicate_succ', Nat.ofDigitChars_append,
        Nat.ofDigitChars_replicate_zero, Nat.ofDigitChars_ten_toDigits, Nat.mul_comm]
    rw [value_of_fraction, hzeros, Double.ofDecimal_shift, Decimal.toDouble]
    congr 3
    simp [power]; omega

/-- A number with digits on either side of the point. -/
theorem exists_spells_split {k : Nat} (h₀ : d.coefficient ≠ 0)
    (hpoint : ((Nat.toDigits 10 d.coefficient).length : Int) + d.exponent = k) (hk : 0 < k)
    (hlen : k < (Nat.toDigits 10 d.coefficient).length)
    (htext : d.text = Text.ofChars ((Nat.toDigits 10 d.coefficient).take k ++
      '.' :: (Nat.toDigits 10 d.coefficient).drop k)) :
    ∃ n : Numeral, n.negative = negative ∧ n.Spells d := by
  have hdigits := Text.areDigits_toDigits d.coefficient
  refine ⟨⟨negative, (Nat.toDigits 10 d.coefficient).take k,
    some ((Nat.toDigits 10 d.coefficient).drop k), none⟩, rfl, ⟨⟨⟨?_, ?_⟩, ?_, ?_, nofun⟩, ?_, ?_⟩⟩
  · simpa using Nat.ne_of_gt hk
  · exact fun c hc => hdigits.2 c (List.mem_of_mem_take hc)
  · intro h
    rw [List.head?_take, if_neg (Nat.ne_of_gt hk)] at h
    exact absurd h (Text.head_toDigits_ne_zero h₀)
  · rintro ds ⟨⟩
    exact ⟨by simpa using hlen, fun c hc => hdigits.2 c (List.mem_of_mem_drop hc)⟩
  · simp [magnitudeText, fractionText, exponentText, htext, Text.ofChars]
  · rw [value_of_fraction, List.take_append_drop, Nat.ofDigitChars_ten_toDigits, Decimal.toDouble]
    congr 3
    simp [power]; omega

/-- A number with an exponent: the first digit, the others behind the point if there are any, and
the power of the first digit. -/
theorem exists_spells_exponent {c : Char} {cs : List Char} (power : Int) {shown : List Char}
    (h₀ : d.coefficient ≠ 0) (hdigits : Nat.toDigits 10 d.coefficient = c :: cs)
    (hpower : power = (cs.length : Int) + d.exponent) (hs : AreDigits shown)
    (hshown : Nat.ofDigitChars 10 shown 0 = power.natAbs)
    (htext : d.text = Text.ofChars ((if cs = [] then [c] else c :: '.' :: cs) ++
      'e' :: (if power < 0 then '-' else '+') :: shown)) :
    ∃ n : Numeral, n.negative = negative ∧ n.Spells d := by
  have hall := Text.areDigits_toDigits d.coefficient
  have hhead := Text.head_toDigits_ne_zero h₀
  have hcoefficient := Nat.ofDigitChars_ten_toDigits (n := d.coefficient)
  rw [hdigits] at hall hhead hcoefficient
  have hc : AreDigits [c] := ⟨by simp, by simpa using hall.2 c List.mem_cons_self⟩
  -- the sign of the exponent is written apart from its digits
  have hvalue : Numeral.power (some (decide (power < 0), shown)) = power := by
    by_cases hp : power < 0
    · rw [decide_eq_true hp, Numeral.power, hshown]
      omega
    · rw [decide_eq_false hp, Numeral.power, hshown]
      omega
  by_cases hcs : cs = []
  · subst hcs
    refine ⟨⟨negative, [c], none, some (decide (power < 0), shown)⟩, rfl,
      ⟨⟨hc, fun h => by simpa using h, nofun, ?_⟩, ?_, ?_⟩⟩
    · rintro e ⟨⟩
      exact hs
    · simp [magnitudeText, fractionText, exponentText, htext, Text.ofChars]
    · rw [value_of_exponent, hvalue, hcoefficient, Decimal.toDouble]
      congr 3
      simpa using hpower
  · refine ⟨⟨negative, [c], some cs, some (decide (power < 0), shown)⟩, rfl,
      ⟨⟨hc, fun h => by simpa using h, ?_, ?_⟩, ?_, ?_⟩⟩
    · rintro ds ⟨⟩
      exact ⟨hcs, fun x hx => hall.2 x (List.mem_cons_of_mem _ hx)⟩
    · rintro e ⟨⟩
      exact hs
    · simp [magnitudeText, fractionText, exponentText, htext, Text.ofChars, hcs]
    · rw [value_of_fraction, hvalue, List.singleton_append, hcoefficient, Decimal.toDouble]
      congr 3
      omega

end

/-- Every positive decimal is written as a numeral of its double. -/
theorem exists_spells {d : Decimal} (h₀ : d.coefficient ≠ 0) (negative : Bool) :
    ∃ n : Numeral, n.negative = negative ∧ n.Spells d := by
  -- the notation depends on where the point stands among the digits
  have htext := Decimal.text.eq_def d
  simp only at htext
  by_cases hrange : -4 < ((Nat.toDigits 10 d.coefficient).length : Int) + d.exponent ∧
      ((Nat.toDigits 10 d.coefficient).length : Int) + d.exponent ≤ 16
  · rw [if_pos hrange] at htext
    split at htext
    · rename_i k hk
      exact exists_spells_small (k := k + 1) (by omega) (by simpa using htext)
    · rename_i hk
      exact exists_spells_small (k := 0) (by simpa using hk) (by simpa using htext)
    · rename_i k hk₀ hk
      have hk₁ : k ≠ 0 := by rintro rfl; exact hk₀ rfl
      split_ifs at htext with hlen
      · exact exists_spells_whole h₀ hk hlen htext
      · exact exists_spells_split h₀ hk (Nat.pos_of_ne_zero hk₁) (Nat.not_le.1 hlen) htext
  · rw [if_neg hrange] at htext
    generalize hpower :
      ((Nat.toDigits 10 d.coefficient).length : Int) + d.exponent - 1 = power at htext
    obtain ⟨c, cs, hc⟩ := List.exists_cons_of_ne_nil
      (Nat.toDigits_ne_nil (n := d.coefficient) (b := 10))
    have hshown := areDigits_zeros_append (2 - (Nat.toDigits 10 power.natAbs).length)
      (Text.areDigits_toDigits power.natAbs)
    refine exists_spells_exponent power h₀ hc ?_ hshown ?_ ?_
    · rw [hc, List.length_cons] at hpower; omega
    · simp [Nat.ofDigitChars_append, Nat.ofDigitChars_replicate_zero]
    · rw [htext]
      cases cs <;> simp [hc]

/-- **A finite double is written as a numeral whose value it is.** -/
theorem exists_numeral {x : Double} (h : x.isFinite = true) :
    ∃ n : Numeral, n.WellFormed ∧ n.text = writeDouble x ∧ n.value = .ok (.float x) := by
  match x, h with
  | .finite negative units hu, _ =>
    by_cases h₀ : units = 0
    · subst h₀
      refine ⟨⟨negative, ['0'], some ['0'], none⟩,
        ⟨areDigits_zero, fun _ => rfl, ?_, nofun⟩, ?_, ?_⟩
      · rintro ds ⟨⟩
        exact areDigits_zero
      · rfl
      · rw [value_of_fraction]
        exact congrArg (Except.ok ∘ Json.float) (Double.ofDecimal_zero negative _)
    · obtain ⟨n, rfl, hn⟩ := exists_spells (Units.coefficient_shortest_ne_zero hu h₀) negative
      refine ⟨n, hn.wellFormed, ?_, ?_⟩
      · simp only [Numeral.text, hn.text, writeDouble, Double.text, h₀, ↓reduceIte]
      · rw [hn.value, Decimal.toDouble, Units.ofDecimal_shortest hu]

end Json

end JsonApi
