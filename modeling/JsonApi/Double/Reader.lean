import JsonApi.Double
import JsonApi.Text

/-!
# Reading a double

A number may have a sign, digits on either side of a point and an exponent; infinity and the value
that is no number have names, in any case of letters.
-/

namespace JsonApi.Double

/-- The digits at the front of a text, and the text behind them. -/
def leadingDigits (t : Text) : List Char × Text :=
  ((t.takeWhile CodePoint.isDigit).filterMap CodePoint.toChar?, t.dropWhile CodePoint.isDigit)

/-- The exponent that a text spells; no text is the exponent zero. -/
def exponentOf? : Text → Option Int
  | [] => some 0
  | .scalar e :: rest =>
    if e = 'e' ∨ e = 'E' then
      let (negative, rest) : Bool × Text := match rest with
        | .scalar '-' :: rest => (true, rest)
        | .scalar '+' :: rest => (false, rest)
        | rest => (false, rest)
      match leadingDigits rest with
      | ([], _) => none
      | (ds, []) =>
        let n : Nat := Nat.ofDigitChars 10 ds 0
        some (if negative then -(n : Int) else n)
      | _ => none
    else none
  | _ => none

/-- The double that a text without a sign spells, with a sign that is given. -/
def magnitudeOf? (negative : Bool) (t : Text) : Option Double :=
  let word := Text.asciiLower t
  if word = ("inf" : Text) ∨ word = ("infinity" : Text) then some (.infinite negative)
  else if word = ("nan" : Text) then some .nan
  else
    let (whole, rest) := leadingDigits t
    let (behind, rest) := match rest with
      | .scalar '.' :: rest => leadingDigits rest
      | rest => ([], rest)
    if whole ++ behind = [] then none
    else
      (exponentOf? rest).map fun e =>
        .ofDecimal negative (Nat.ofDigitChars 10 (whole ++ behind) 0) (e - behind.length)

/-- The double that a text spells. -/
def ofText? : Text → Option Double
  | .scalar '-' :: t => magnitudeOf? true t
  | .scalar '+' :: t => magnitudeOf? false t
  | t => magnitudeOf? false t

end JsonApi.Double
