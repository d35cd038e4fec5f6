import JsonApi.Double
import JsonApi.Text

/-!
# The shortest decimal form of a double

`Double.shortest` picks the fewest digits that read back as the same double, and among decimals
with that many digits the one nearest to it.  `Double.text` writes them: positionally while the
first digit stands between `10 ^ -4` and `10 ^ 15`, with a point always, and otherwise with an
exponent of at least two digits.
-/

namespace JsonApi

/-- A decimal: `coefficient * 10 ^ exponent`. -/
structure Decimal where
  coefficient : Nat
  exponent : Int
  deriving DecidableEq

namespace Decimal

/-- The same decimal without zeros at the end of the coefficient, as far as `fuel` allows. -/
def strip : Nat → Decimal → Decimal
  | 0, d => d
  | fuel + 1, d =>
    if d.coefficient ≠ 0 ∧ d.coefficient % 10 = 0 then
      strip fuel ⟨d.coefficient / 10, d.exponent + 1⟩
    else d

end Decimal

namespace Units

/-- The whole part of `units * 2 ^ -1074 / 10 ^ exponent`, with the remainder and the divisor. -/
def scaled (units : Nat) : Int → Nat × Nat × Nat
  | .ofNat k => let den := 2 ^ 1074 * 10 ^ k; (units / den, units % den, den)
  | .negSucc k =>
    let num := units * 10 ^ (k + 1)
    (num / 2 ^ 1074, num % 2 ^ 1074, 2 ^ 1074)

/-- How many places after the point the first digit of a positive number below one takes. -/
def leadingPlace (units : Nat) : Nat → Nat → Nat
  | 0, place => place
  | fuel + 1, place =>
    if 2 ^ 1074 ≤ units * 10 ^ place then place else leadingPlace units fuel (place + 1)

/-- The power of ten of the first digit of a positive count of units. -/
def magnitude (units : Nat) : Int :=
  let whole := units / 2 ^ 1074
  if whole = 0 then -(leadingPlace units 400 1 : Int)
  else (Nat.toDigits 10 whole).length - 1

/-- Whether a decimal rounds to the given units. -/
def readsBack (units : Nat) (d : Decimal) : Bool :=
  Double.ofDecimal false d.coefficient d.exponent == Double.ofUnits false units

/-- Of the two neighbours on the grid of `10 ^ exponent`, the nearer one that reads back; the
even one when both are equally near. -/
def neighbour? (units : Nat) (exponent : Int) : Option Decimal :=
  let (below, remainder, divisor) := scaled units exponent
  let low : Decimal := ⟨below, exponent⟩
  let high : Decimal := ⟨below + 1, exponent⟩
  match readsBack units low, readsBack units high with
  | false, false => none
  | true, false => some low
  | false, true => some high
  | true, true =>
    some <| if 2 * remainder < divisor then low
      else if divisor < 2 * remainder then high
      else if below % 2 = 0 then low else high

/-- The decimal that equals a count of units. -/
def exact (units : Nat) : Decimal := ⟨units * 5 ^ 1074, -1074⟩

/-- The shortest decimal that reads back as a positive count of units. -/
def shortest (units : Nat) : Decimal :=
  let top := magnitude units
  let grids := (List.range 17).map fun (n : Nat) => top - (n : Int)
  match grids.findSome? (neighbour? units) with
  | some d => d.strip 400
  | none => exact units

end Units

namespace Decimal

/-- The digits of a decimal in the notation of documents: positional while the first digit stands
between `10 ^ -4` and `10 ^ 15`, else with an exponent. -/
def text (d : Decimal) : Text :=
  let digits := Nat.toDigits 10 d.coefficient
  let point : Int := digits.length + d.exponent
  if -4 < point ∧ point ≤ 16 then
    match point with
    | .negSucc k => Text.ofChars ('0' :: '.' :: List.replicate (k + 1) '0' ++ digits)
    | .ofNat 0 => Text.ofChars ('0' :: '.' :: digits)
    | .ofNat k =>
      if digits.length ≤ k then
        Text.ofChars (digits ++ List.replicate (k - digits.length) '0' ++ ['.', '0'])
      else Text.ofChars (digits.take k ++ '.' :: digits.drop k)
  else
    let mantissa := match digits with
      | [] => []
      | [c] => [c]
      | c :: cs => c :: '.' :: cs
    -- the power of the first digit, written with a sign and two digits at least
    let power := point - 1
    let shown := Nat.toDigits 10 power.natAbs
    let sign := if power < 0 then '-' else '+'
    Text.ofChars (mantissa ++ 'e' :: sign :: List.replicate (2 - shown.length) '0' ++ shown)

end Decimal

/-- The text of a double: the shortest decimal that reads back, or the name of a value that is no
finite number. -/
def Double.text (notANumber infinity : Text) : Double → Text
  | .nan => notANumber
  | .infinite negative => (if negative then ("-" : Text) else []) ++ infinity
  | .finite negative units _ =>
    (if negative then ("-" : Text) else []) ++
      if units = 0 then ("0.0" : Text) else (Units.shortest units).text

end JsonApi
