import JsonApi.Text.Blank
import JsonApi.Text.Quoted

/-!
# Integers in text

An integer may be written in the decimal digits of any script, with a sign, with white space around
it and with single underscores between its digits.  In base 16 the digits may have a mark of the
base in front.
-/

namespace JsonApi.Text

/-- The zeros past ASCII in Unicode 14; each is followed by the other nine digits of its script. -/
def zeros : List Nat := [
  0x660, 0x6F0, 0x7C0, 0x966, 0x9E6, 0xA66, 0xAE6, 0xB66, 0xBE6, 0xC66, 0xCE6, 0xD66, 0xDE6, 0xE50,
  0xED0, 0xF20, 0x1040, 0x1090, 0x17E0, 0x1810, 0x1946, 0x19D0, 0x1A80, 0x1A90, 0x1B50, 0x1BB0,
  0x1C40, 0x1C50, 0xA620, 0xA8D0, 0xA900, 0xA9D0, 0xA9F0, 0xAA50, 0xABF0, 0xFF10, 0x104A0, 0x10D30,
  0x11066, 0x110F0, 0x11136, 0x111D0, 0x112F0, 0x11450, 0x114D0, 0x11650, 0x116C0, 0x11730,
  0x118E0, 0x11950, 0x11C50, 0x11D50, 0x11DA0, 0x16A60, 0x16AC0, 0x16B50, 0x1D7CE, 0x1D7D8,
  0x1D7E2, 0x1D7EC, 0x1D7F6, 0x1E140, 0x1E2F0, 0x1E950, 0x1FBF0]

/-- The value of a decimal digit. -/
def digit? (c : CodePoint) : Option Nat :=
  let n := c.toNat
  if n < 0x80 then if 48 ≤ n ∧ n ≤ 57 then some (n - 48) else none
  else (zeros.find? fun z => z ≤ n && n < z + 10).map (n - ·)

/-- A text with the decimal digits of all scripts replaced by those of ASCII. -/
def withAsciiDigits (t : Text) : Text :=
  t.map fun c => ((digit? c).map fun d => CodePoint.ofNat (48 + d)).getD c

/-- Whether each underscore of a text stands between two digits; `afterDigit` tells whether the
text itself stands behind one. -/
def underscoresJoin (isDigit : CodePoint → Bool) (afterDigit : Bool) : Text → Bool
  | [] => true
  | [c] => c ≠ .scalar '_'
  | c :: d :: t =>
    (c ≠ .scalar '_' || (afterDigit && isDigit d)) && underscoresJoin isDigit (isDigit c) (d :: t)

/-- A text without its sign, and whether that is a minus. -/
def unsigned : Text → Bool × Text
  | .scalar '-' :: t => (true, t)
  | .scalar '+' :: t => (false, t)
  | t => (false, t)

/-- Why a text spells no integer. -/
inductive Integer.Error
  | malformed (base : Nat) (t : Text)
  | tooManyDigits (count : Nat)
  deriving DecidableEq

/-- The most decimal digits of an integer that is read. -/
def integerDigits : Nat := 4300

/-- The most characters of a text that a message shows. -/
def Integer.Error.shown : Nat := 200

/-- The wording of an error. -/
def Integer.Error.message : Integer.Error → Text
  | .malformed base t =>
    ("invalid literal for int() with base " : Text) ++ ofNat base ++ (": " : Text) ++
      t.quoted.take shown
  | .tooManyDigits count =>
    ("Exceeds the limit (" : Text) ++ ofNat integerDigits ++
      (" digits) for integer string conversion: value has " : Text) ++ ofNat count ++
      (" digits; use sys.set_int_max_str_digits() to increase the limit" : Text)

/-- The value of a digit in a base up to 16. -/
def digitIn? (base : Nat) (c : CodePoint) : Option Nat := c.hexDigit?.filter (· < base)

/-- A text without the mark of base 16, which an underscore may follow. -/
def withoutMark : Text → Text
  | .scalar '0' :: .scalar x :: t =>
    if x = 'x' ∨ x = 'X' then
      match t with
      | .scalar '_' :: t => t
      | t => t
    else .scalar '0' :: .scalar x :: t
  | t => t

/-- The natural number that a text of digits spells; `whole` is the text that an error names. -/
def natural (base : Nat) (whole digits : Text) : Except Integer.Error Nat :=
  let digits := if base = 16 then withoutMark digits else digits
  let isDigit (c : CodePoint) : Bool := (digitIn? base c).isSome
  let run := digits.takeWhile fun c => isDigit c || c = .scalar '_'
  let values := run.filterMap (digitIn? base)
  if !underscoresJoin isDigit false run then .error (.malformed base whole)
  else if base = 10 ∧ integerDigits < values.length then .error (.tooManyDigits values.length)
  else if run = [] ∨ run ≠ digits then .error (.malformed base whole)
  else .ok (values.foldl (fun n d => n * base + d) 0)

/-- The integer that a text spells in base 10 or 16. -/
def integer (base : Nat) (t : Text) : Except Integer.Error Int :=
  let (negative, digits) := unsigned (withAsciiDigits (trim CodePoint.isWhiteSpace t))
  (natural base t digits).map fun n => if negative then -(n : Int) else n

end JsonApi.Text
