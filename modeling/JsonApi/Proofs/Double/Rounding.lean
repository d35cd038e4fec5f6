import JsonApi.Double
import Mathlib.Tactic.SplitIfs

/-!
# Rounding decimals to doubles

`Double.ofDecimal` depends only on the number that a coefficient and an exponent stand for, not on
how many zeros the coefficient ends with, and it gives back every double from its exact decimal.

* `Double.ofDecimal_shift` : moving zeros between coefficient and exponent changes nothing;
* `Double.withSign_ofDecimal` : the sign is carried along and decides nothing else;
* `Double.ofDecimal_exact` : `units * 5 ^ 1074 * 10 ^ -1074` is the double of `units`.
-/

namespace JsonApi

namespace Units

theorem spacing_pos (n : Nat) : 0 < spacing n := Nat.two_pow_pos _

theorem nearest_mul_left {k : Nat} (hk : 0 < k) (num den : Nat) :
    nearest (k * num) (k * den) = nearest num den := by
  have hq : k * num / (k * den) = num / den := Nat.mul_div_mul_left _ _ hk
  have hr : k * num % (k * den) = k * (num % den) := Nat.mul_mod_mul_left _ _ _
  have hlt : ∀ a b : Nat, k * a < k * b ↔ a < b := fun a b => Nat.mul_lt_mul_left hk
  simp only [nearest, hq, hr, Nat.mul_left_comm 2 k, hlt]

/-- Rounding a quotient depends on its value only. -/
theorem round_mul_left {k : Nat} (hk : 0 < k) (num den : Nat) :
    round (k * num) (k * den) = round num den := by
  simp only [round, Nat.mul_div_mul_left _ _ hk, Nat.mul_assoc, nearest_mul_left hk]

theorem round_mul_self {k : Nat} (hk : 0 < k) (n : Nat) : round (k * n) k = round n 1 := by
  have := round_mul_left hk n 1
  rwa [Nat.mul_one] at this

theorem nearest_of_dvd {num den : Nat} (hd : 0 < den) (h : num % den = 0) :
    nearest num den = num / den := by
  simp [nearest, h, hd]

/-- A representable count of units is its own nearest one. -/
theorem round_of_representable {units : Nat} (h : Representable units) : round units 1 = units := by
  simp only [round, Nat.div_one, Nat.one_mul]
  rw [nearest_of_dvd (spacing_pos units) h.1]
  exact Nat.div_mul_cancel (Nat.dvd_of_mod_eq_zero h.1)

/-- A count of units is the quotient of its exact decimal. -/
theorem round_exact {units n k : Nat} (h : Representable units) (hn : n = k) :
    round (units * 5 ^ n * 2 ^ n) (10 ^ k) = units := by
  rw [← hn, Nat.mul_assoc, ← Nat.mul_pow, Nat.mul_comm, round_mul_self (Nat.pow_pos (by decide)),
    round_of_representable h]

end Units

namespace Double

theorem ofRatio_mul_left {k : Nat} (hk : 0 < k) (negative : Bool) (num den : Nat) :
    ofRatio negative (k * num) (k * den) = ofRatio negative num den := by
  simp only [ofRatio, Nat.mul_assoc, Units.round_mul_left hk]

theorem ofUnits_of_representable {units : Nat} (h : Units.Representable units) (negative : Bool) :
    ofUnits negative units = .finite negative units h := by
  simp [ofUnits, h]

theorem representable_zero : Units.Representable 0 := by
  constructor
  · exact Nat.zero_mod _
  · apply Nat.two_pow_pos

/-! ### The sign -/

/-- A number with its sign replaced; a value that is no number has none. -/
def withSign (negative : Bool) : Double → Double
  | .nan => .nan
  | .infinite _ => .infinite negative
  | .finite _ units h => .finite negative units h

/-- A decimal overflows or rounds to a count of units, whatever its sign. -/
theorem ofDecimal_cases (coefficient : Nat) (exponent : Int) :
    (∀ negative, ofDecimal negative coefficient exponent = .infinite negative) ∨
      ∃ units, ∀ negative, ofDecimal negative coefficient exponent = ofUnits negative units := by
  simp only [ofDecimal]
  split_ifs
  · exact .inr ⟨_, fun _ => rfl⟩
  · exact .inl fun _ => rfl
  · exact .inr ⟨_, fun _ => rfl⟩
  · cases exponent <;> exact .inr ⟨_, fun _ => rfl⟩

theorem withSign_ofUnits (a b : Bool) (units : Nat) :
    (ofUnits a units).withSign b = ofUnits b units := by
  unfold ofUnits
  split <;> rfl

theorem withSign_ofDecimal (a b : Bool) (coefficient : Nat) (exponent : Int) :
    (ofDecimal a coefficient exponent).withSign b = ofDecimal b coefficient exponent := by
  rcases ofDecimal_cases coefficient exponent with h | ⟨units, h⟩
  · rw [h, h]
    rfl
  · rw [h, h, withSign_ofUnits]

theorem ofDecimal_ne_nan (negative : Bool) (coefficient : Nat) (exponent : Int) :
    ofDecimal negative coefficient exponent ≠ .nan := by
  rcases ofDecimal_cases coefficient exponent with h | ⟨units, h⟩
  · rw [h]
    simp
  · rw [h]
    unfold ofUnits
    split <;> simp

/-! ### Zeros at the end of a coefficient -/

theorem length_toDigits_ten_mul {n : Nat} (hn : 0 < n) :
    (Nat.toDigits 10 (10 * n)).length = (Nat.toDigits 10 n).length + 1 := by
  rw [← Nat.add_zero (10 * n), ← Nat.toDigits_append_toDigits (by decide) hn (by decide)]
  simp

theorem ofDecimal_zero (negative : Bool) (exponent : Int) :
    ofDecimal negative 0 exponent = .finite negative 0 representable_zero := by
  simp only [ofDecimal, ↓reduceIte]
  exact ofUnits_of_representable _ _

/-- A zero at the end of the coefficient counts as one in the exponent. -/
theorem ofDecimal_ten_mul (negative : Bool) (coefficient : Nat) (exponent : Int) :
    ofDecimal negative (10 * coefficient) exponent =
      ofDecimal negative coefficient (exponent + 1) := by
  by_cases hc : coefficient = 0
  · subst hc
    rw [Nat.mul_zero, ofDecimal_zero, ofDecimal_zero]
  have hplaces : ((Nat.toDigits 10 (10 * coefficient)).length : Int) + exponent =
      (Nat.toDigits 10 coefficient).length + (exponent + 1) := by
    rw [length_toDigits_ten_mul (by omega)]
    push_cast
    omega
  -- both have as many places before the point, so they leave the range of doubles together
  simp only [ofDecimal, hplaces, hc, Nat.mul_eq_zero, or_false, show (10 : Nat) ≠ 0 by decide,
    ↓reduceIte]
  split_ifs
  · rfl
  · rfl
  -- the three ways in which the exponent meets the border between the two kinds of quotient
  · match exponent with
    | .ofNat k =>
      change ofRatio negative (10 * coefficient * 10 ^ k) 1 =
        ofRatio negative (coefficient * 10 ^ (k + 1)) 1
      rw [Nat.pow_succ, Nat.mul_comm 10, Nat.mul_assoc, Nat.mul_comm 10]
    | .negSucc 0 =>
      change ofRatio negative (10 * coefficient) (10 * 1) = ofRatio negative (coefficient * 1) 1
      rw [ofRatio_mul_left (by decide), Nat.mul_one]
    | .negSucc (k + 1) =>
      change ofRatio negative (10 * coefficient) (10 ^ (k + 1 + 1)) =
        ofRatio negative coefficient (10 ^ (k + 1))
      rw [Nat.pow_succ _ (k + 1), Nat.mul_comm (10 ^ (k + 1)), ofRatio_mul_left (by decide)]

/-- Zeros may be moved between the coefficient and the exponent. -/
theorem ofDecimal_shift (negative : Bool) (coefficient k : Nat) (exponent : Int) :
    ofDecimal negative (coefficient * 10 ^ k) exponent =
      ofDecimal negative coefficient (exponent + k) := by
  induction k generalizing exponent with
  | zero => simp
  | succ k ih =>
    rw [Nat.pow_succ, ← Nat.mul_assoc, Nat.mul_comm _ 10, ofDecimal_ten_mul, ih]
    congr 1
    push_cast
    omega

/-! ### The exact decimal of a double -/

theorem five_pow_ne_zero (n : Nat) : 5 ^ n ≠ 0 := Nat.ne_of_gt (Nat.pow_pos (by decide))

theorem mul_five_pow_lt {units m k e : Nat} (h : units < 2 ^ (m + e)) (hm : m ≤ 3 * k) :
    units * 5 ^ e < 10 ^ (k + e) :=
  calc units * 5 ^ e < 2 ^ (m + e) * 5 ^ e :=
        Nat.mul_lt_mul_of_pos_right h (Nat.pow_pos (by decide))
    _ = 2 ^ m * 10 ^ e := by rw [Nat.pow_add, Nat.mul_assoc, ← Nat.mul_pow]
    _ ≤ 2 ^ (3 * k) * 10 ^ e := Nat.mul_le_mul_right _ (Nat.pow_le_pow_right (by decide) hm)
    _ = (2 ^ 3) ^ k * 10 ^ e := by rw [Nat.pow_mul]
    _ ≤ 10 ^ k * 10 ^ e := Nat.mul_le_mul_right _ (Nat.pow_le_pow_left (by decide) _)
    _ = 10 ^ (k + e) := (Nat.pow_add ..).symm

theorem ten_pow_le_mul {units : Nat} (h : units ≠ 0) (k : Nat) :
    10 ^ (2 * k) ≤ units * 5 ^ (3 * k) :=
  calc 10 ^ (2 * k) = (10 ^ 2) ^ k := Nat.pow_mul ..
    _ ≤ (5 ^ 3) ^ k := Nat.pow_le_pow_left (by decide) _
    _ = 5 ^ (3 * k) := (Nat.pow_mul ..).symm
    _ ≤ units * 5 ^ (3 * k) := Nat.le_mul_of_pos_left _ (Nat.pos_of_ne_zero h)

theorem length_toDigits_mul_five_pow {units m j k : Nat} (h₀ : units ≠ 0) (hj : 0 < j)
    (h : units < 2 ^ (m + 3 * j)) (hm : m ≤ 3 * k) :
    2 * j < (Nat.toDigits 10 (units * 5 ^ (3 * j))).length ∧
      (Nat.toDigits 10 (units * 5 ^ (3 * j))).length ≤ k + 3 * j := by
  constructor
  · rw [← Nat.not_le, Nat.length_toDigits_le_iff (by decide) (by omega), Nat.not_lt]
    exact ten_pow_le_mul h₀ j
  · rw [Nat.length_toDigits_le_iff (by decide) (by omega)]
    exact mul_five_pow_lt h hm

theorem ofDecimal_negSucc {coefficient k : Nat} (negative : Bool) (h₀ : coefficient ≠ 0)
    (hlow : k < 400 + (Nat.toDigits 10 coefficient).length)
    (hhigh : (Nat.toDigits 10 coefficient).length ≤ 401 + k) :
    ofDecimal negative coefficient (.negSucc k) = ofRatio negative coefficient (10 ^ (k + 1)) := by
  simp only [ofDecimal, h₀, ↓reduceIte]
  rw [if_neg (by omega), if_neg (by omega)]

/-- The exact decimal of a double reads back as that double. -/
theorem ofDecimal_exact {units : Nat} (negative : Bool) (h : Units.Representable units) :
    ofDecimal negative (units * 5 ^ 1074) (-1074) = .finite negative units h := by
  by_cases hc : units * 5 ^ 1074 = 0
  · simp only [ofDecimal, hc, ↓reduceIte]
    obtain rfl := (Nat.mul_eq_zero.1 hc).resolve_right (five_pow_ne_zero 1074)
    exact ofUnits_of_representable h negative
  have h₀ : units ≠ 0 := fun h => hc (Nat.mul_eq_zero.2 (.inl h))
  -- the coefficient has more than 716 and at most 1416 digits, so the decimal is in range
  have hlt := h.2
  rw [show 2098 = 1024 + 3 * 358 from rfl] at hlt
  obtain ⟨hlow, hhigh⟩ :=
    length_toDigits_mul_five_pow (k := 342) h₀ (by decide) hlt (by decide)
  rw [show 3 * 358 = 1074 from rfl] at hlow hhigh
  rw [show (-1074 : Int) = .negSucc 1073 from rfl,
    ofDecimal_negSucc negative hc (by omega) (by omega), ofRatio,
    Units.round_exact h (show 1074 = 1073 + 1 from rfl), ofUnits_of_representable h]

end Double

end JsonApi
