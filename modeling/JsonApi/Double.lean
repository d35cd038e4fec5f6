/-!
# Double-precision numbers

A finite double is a sign and a whole number of units of `2 ^ -1074`, the least positive double.
A count of units is representable when it is a multiple of the spacing of doubles around it and
lies below `2 ^ 2098`, the units of `2 ^ 1024`.  Rounding a quotient of natural numbers goes to
the nearest count, ties to the even multiple of the spacing; past the last representable count
it overflows to infinity.
-/

namespace JsonApi

-- powers are those of the core library, also where an algebra brings its own
attribute [instance (high), default_instance (high + 1)] instPowNat

namespace Units

/-- The distance between neighbouring doubles around `n` units. -/
def spacing (n : Nat) : Nat := 2 ^ (n.log2 - 52)

/-- The units of a finite double. -/
def Representable (n : Nat) : Prop := n % spacing n = 0 ∧ n < 2 ^ 2098

instance (n : Nat) : Decidable (Representable n) := inferInstanceAs (Decidable (_ ∧ _))

/-- The natural number nearest to `num / den`, the even one of two that are equally near. -/
def nearest (num den : Nat) : Nat :=
  let q := num / den
  let r := num % den
  if 2 * r < den then q
  else if den < 2 * r then q + 1
  else if q % 2 = 0 then q else q + 1

/-- The multiple of the spacing that is nearest to `num / den` units. -/
def round (num den : Nat) : Nat :=
  let step := spacing (num / den)
  nearest num (den * step) * step

end Units

/-- A double-precision number. -/
inductive Double
  | nan
  | infinite (negative : Bool)
  | finite (negative : Bool) (units : Nat) (representable : Units.Representable units)
  deriving DecidableEq

namespace Double

/-- The number with a sign and a count of units; a count that is not representable overflows. -/
def ofUnits (negative : Bool) (units : Nat) : Double :=
  if h : Units.Representable units then .finite negative units h else .infinite negative

instance : Inhabited Double := ⟨ofUnits false 0⟩

/-- The double nearest to `num / den`, with a sign. -/
def ofRatio (negative : Bool) (num den : Nat) : Double :=
  ofUnits negative (Units.round (num * 2 ^ 1074) den)

/-- The double nearest to an integer. -/
def ofInt (n : Int) : Double := ofRatio (decide (n < 0)) n.natAbs 1

/-- The double nearest to `coefficient * 10 ^ exponent`, with a sign.  The two comparisons keep
the powers small: they stand for numbers far above the greatest double or far below half the
least one. -/
def ofDecimal (negative : Bool) (coefficient : Nat) (exponent : Int) : Double :=
  let places := (Nat.toDigits 10 coefficient).length + exponent
  if coefficient = 0 then ofUnits negative 0
  else if 400 < places then .infinite negative
  else if places < -400 then ofUnits negative 0
  else match exponent with
    | .ofNat k => ofRatio negative (coefficient * 10 ^ k) 1
    | .negSucc k => ofRatio negative coefficient (10 ^ (k + 1))

/-- Whether a number is neither infinite nor no number at all. -/
def isFinite : Double → Bool
  | .finite .. => true
  | _ => false

/-- The integer that a double equals, if it equals one. -/
def toInt? : Double → Option Int
  | .finite negative units _ =>
    if units % 2 ^ 1074 = 0 then
      let n : Nat := units / 2 ^ 1074
      some (if negative then -(n : Int) else n)
    else none
  | _ => none

/-- Numerical equality: both zeros are equal, and no number differs from itself. -/
def equals : Double → Double → Bool
  | .infinite a, .infinite b => a == b
  | .finite a m _, .finite b n _ => m == n && (a == b || m == 0)
  | _, _ => false

end Double

end JsonApi
