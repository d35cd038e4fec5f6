import JsonApi.Double.Reader
import JsonApi.Json
import JsonApi.Text.Blank
import JsonApi.Validation

/-!
# Coercion of JSON values

A field that wants an integer also takes a whole double, a truth value or a text that spells an
integer; fields for doubles and truth values are as generous.  A field for text takes nothing but
text.
-/

namespace JsonApi

namespace Coercion

/-- A text without white space at either end. -/
def trimmed (t : Text) : Text := Text.trim CodePoint.isWhiteSpace t

/-- An underscore. -/
def underscore : CodePoint := .scalar '_'

/-- Whether two neighbours in a text are both underscores. -/
def hasDoubleUnderscore (t : Text) : Bool :=
  (t.zip t.tail).any fun (a, b) => a = underscore && b = underscore

/-- A text without its underscores, if it holds some and each stands alone inside it. -/
def withoutUnderscores? (t : Text) : Option Text :=
  if t.contains underscore && t.head? != some underscore && t.getLast? != some underscore &&
      !hasDoubleUnderscore t then
    some (t.filter (· ≠ underscore))
  else none

/-- The integer of an optional minus sign and digits, the first of which is no superfluous
zero. -/
def plainInteger? (t : Text) : Option Int :=
  let (negative, digits) : Bool × Text := match t with
    | .scalar '-' :: rest => (true, rest)
    | rest => (false, rest)
  if digits = [] ∨ !digits.all CodePoint.isDigit ∨
      (digits.head? = some (.scalar '0') ∧ digits.length ≠ 1) then none
  else
    let n : Nat := Nat.ofDigitChars 10 (digits.filterMap CodePoint.toChar?) 0
    some (if negative then -(n : Int) else n)

/-- The text from the last of the zeros on that stand in front of digits, or from the first
significant digit on; underscores between zeros do not count.  A text that does not start with a
digit spells no integer. -/
def withoutLeadingZeros? : Text → Option Text
  | [] => none
  | c :: rest =>
    if c = .scalar '0' then
      let isZero (c : CodePoint) : Bool := c = .scalar '0' || c = underscore
      match rest.dropWhile isZero with
      | [] => some [(c :: rest).getLast (by simp)]
      | d :: rest' =>
        if d.isDigit then some (d :: rest')
        else if d = .scalar '.' then
          some ((c :: rest.takeWhile isZero).getLast (by simp) :: d :: rest')
        else none
    else if c.isDigit then some (c :: rest)
    else none

/-- A text without a point that nothing but zeros follow; none at all need to follow. -/
def withoutZeroFraction (t : Text) : Text :=
  match t.cut? (.scalar '.') with
  | some (whole, fraction) => if fraction.all (· = .scalar '0') then whole else t
  | none => t

/-- The plain form of a text that spells an integer in a generous way, its sign apart. -/
def tidyDigits? (t : Text) : Option Text :=
  (withoutLeadingZeros? t).map fun t =>
    let t := withoutZeroFraction t
    (withoutUnderscores? t).getD t

/-- The plain form of a text that spells an integer in a generous way.  It has one sign at most,
and a plus sign is dropped. -/
def tidyInteger? (t : Text) : Option Text :=
  match trimmed t with
  | .scalar '+' :: rest => tidyDigits? rest
  | .scalar '-' :: rest => (tidyDigits? rest).map (.scalar '-' :: ·)
  | rest => tidyDigits? rest

/-- The most digits of an integer; its sign does not count. -/
def integerLimit : Nat := 4300

/-- Whether a text starts with an integer in its plain form that has too many digits. -/
def startsTooLong (t : Text) : Bool :=
  let digits : Text := match t with
    | .scalar '-' :: rest => rest
    | rest => rest
  let run := digits.takeWhile CodePoint.isDigit
  run.head? != some (.scalar '0') && integerLimit < run.length

/-- The integer that a text spells. -/
def integerOfText (t : Text) : Checked Int :=
  if startsTooLong t then Checked.fail .integerSize
  else match (plainInteger? t).or ((tidyInteger? t).bind plainInteger?) with
    | some n => if startsTooLong (Text.ofInt n) then Checked.fail .integerText else .ok n
    | none => Checked.fail .integerText

/-- Whether an integer fits into 64 bits with a sign. -/
def fitsWord (n : Int) : Bool := -(2 ^ 63) ≤ n && n < 2 ^ 63

/-- The integer that a double equals, if it fits into 64 bits; the least one does not count. -/
def integerOfDouble (x : Double) : Checked Int :=
  if !x.isFinite then Checked.fail .notFinite
  else match x.toInt? with
    | none => Checked.fail .fraction
    | some n => if fitsWord n ∧ n ≠ -(2 ^ 63) then .ok n else Checked.fail .integerSize

/-- A text. -/
def text : Json → Checked Text
  | .string t => .ok t
  | _ => Checked.fail .text

/-- An integer. -/
def integer : Json → Checked Int
  | .int n => .ok n
  | .bool b => .ok (if b then 1 else 0)
  | .float x => integerOfDouble x
  | .string t => integerOfText t
  | _ => Checked.fail .integer

/-- A double. -/
def double : Json → Checked Double
  | .float x => .ok x
  | .int n => .ok (.ofInt n)
  | .bool b => .ok (.ofInt (if b then 1 else 0))
  | .string t =>
    match (Double.ofText? (trimmed t)).or ((withoutUnderscores? t).bind Double.ofText?) with
    | some x => .ok x
    | none => Checked.fail .numberText
  | _ => Checked.fail .number

/-- The truth value that a text names. -/
def boolOfText? (t : Text) : Option Bool :=
  let word := Text.asciiLower t
  if (["0", "off", "f", "false", "n", "no"] : List Text).contains word then some false
  else if (["1", "on", "t", "true", "y", "yes"] : List Text).contains word then some true
  else none

/-- The truth value that an integer stands for. -/
def boolOfInt (n : Int) : Checked Bool :=
  if n = 0 then .ok false else if n = 1 then .ok true else Checked.fail .booleanText

/-- A truth value. -/
def bool : Json → Checked Bool
  | .bool b => .ok b
  | .int n => if fitsWord n then boolOfInt n else Checked.fail .boolean
  | .float x => match integerOfDouble x with
    | .ok n => boolOfInt n
    | .error _ => Checked.fail .boolean
  | .string t => match boolOfText? t with
    | some b => .ok b
    | none => Checked.fail .booleanText
  | _ => Checked.fail .boolean

end Coercion

end JsonApi
