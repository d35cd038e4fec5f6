import JsonApi.Double.Reader
import JsonApi.Text.Integer

/-!
# Decimal numbers

A decimal number keeps its digits and its exponent as they are written.  Without places behind the
point it counts as an integer, and otherwise as the nearest double.
-/

namespace JsonApi

/-- A decimal number. -/
inductive Amount
  /-- The number `coefficient * 10 ^ exponent` with a sign. -/
  | finite (negative : Bool) (coefficient : Nat) (exponent : Int)
  | infinite (negative : Bool)
  | nan
  /-- The value that is no number and must not be used as one. -/
  | signaling
  deriving DecidableEq

namespace Amount

/-- A coefficient without zeros at its end, and the exponent that goes with it; each zero takes one
of the steps. -/
def withoutZeros : (steps coefficient : Nat) → (exponent : Int) → Nat × Int
  | 0, c, e => (c, e)
  | steps + 1, c, e => if c % 10 = 0 then withoutZeros steps (c / 10) (e + 1) else (c, e)

/-- The coefficient and the exponent that all finite numbers of one value share, their signs
apart. -/
def normal (coefficient : Nat) (exponent : Int) : Nat × Int :=
  if coefficient = 0 then (0, 0)
  else withoutZeros (Nat.toDigits 10 coefficient).length coefficient exponent

/-- Whether two numbers are equal. -/
def same : Amount → Amount → Bool
  | .finite negative c e, .finite negative' c' e' =>
    normal c e == normal c' e' && (negative == negative' || c == 0)
  | .infinite negative, .infinite negative' => negative == negative'
  | _, _ => false

/-- Why a text spells no decimal number. -/
inductive Error
  | malformed
  /-- The number has digits outside the places that decimal numbers have. -/
  | outOfRange
  deriving DecidableEq

/-- The wording of an error. -/
def Error.message : Error → Text
  | .malformed => "[<class 'decimal.ConversionSyntax'>]"
  | .outOfRange => "[<class 'decimal.InvalidOperation'>]"

/-- The greatest exponent of a first digit. -/
def greatestExponent : Int := 999999999999999999

/-- The least exponent of a last digit. -/
def leastExponent : Int := -1999999999999999997

/-- The decimal number of a sign, digits and the exponent of the last one of them. -/
def ofDigits (negative : Bool) (digits : List Char) (exponent : Int) : Except Error Amount :=
  let coefficient := Nat.ofDigitChars 10 digits 0
  let places := (Nat.toDigits 10 coefficient).length
  if exponent < leastExponent ∨ greatestExponent < exponent + places - 1 then .error .outOfRange
  else .ok (.finite negative coefficient exponent)

/-- The number that a text without a sign spells, with a sign that is given. -/
def magnitude (negative : Bool) (t : Text) : Except Error Amount :=
  let word := Text.asciiLower t
  if word = ("inf" : Text) ∨ word = ("infinity" : Text) then .ok (.infinite negative)
  else if word.take 3 = ("nan" : Text) ∧ (word.drop 3).all CodePoint.isDigit then .ok .nan
  else if word.take 4 = ("snan" : Text) ∧ (word.drop 4).all CodePoint.isDigit then .ok .signaling
  else
    let (whole, rest) := Double.leadingDigits t
    let (behind, rest) := match rest with
      | .scalar '.' :: rest => Double.leadingDigits rest
      | rest => ([], rest)
    match Double.exponentOf? rest with
    | some e =>
      if whole ++ behind = [] then .error .malformed
      else ofDigits negative (whole ++ behind) (e - behind.length)
    | none => .error .malformed

/-- The number that a text spells; blanks around it and underscores do not count, and the digits
may be those of any script. -/
def ofText (t : Text) : Except Error Amount :=
  let (negative, t) := Text.unsigned (t.strip.withAsciiDigits.filter (· ≠ CodePoint.scalar '_'))
  magnitude negative t

end Amount

end JsonApi
