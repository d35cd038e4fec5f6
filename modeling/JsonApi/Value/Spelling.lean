import JsonApi.Encoding.Hexadecimal
import JsonApi.Value

/-!
# Values that texts spell

`Value.Spelling` names the kinds of values that a text stands for, and `Spelling.read` gives the
value of a kind that a text spells, or says why there is none.
-/

namespace JsonApi

namespace Text

/-- A text without a part wherever it occurs, of which the first `skipped` characters are already
known to be gone. -/
def withoutFrom (part : Text) (skipped : Nat) : Text → Text
  | [] => []
  | c :: t =>
    if skipped ≠ 0 then withoutFrom part (skipped - 1) t
    else if part.isPrefixOf (c :: t) then withoutFrom part (part.length - 1) t
    else c :: withoutFrom part 0 t

/-- A text without a part wherever it occurs. -/
def without (part t : Text) : Text := withoutFrom part 0 t

end Text

namespace Value

/-- Why a text spells no value of a kind. -/
inductive Unreadable
  | integer (e : Text.Integer.Error)
  | float (t : Text)
  | amount (e : Amount.Error)
  | calendar (e : Calendar.Error)
  /-- A duration of too many days. -/
  | days (count : Int)
  /-- A text that has not the length of an identifier of 128 bits. -/
  | uuid
  | address (t : Text)
  /-- A character that is no hexadecimal digit. -/
  | hexadecimal (position : Nat)
  deriving DecidableEq

namespace Unreadable

/-- Whether a duration has so many days that they do not fit into 32 bits with a sign. -/
def exceedsWord (count : Int) : Bool := count < -(2 ^ 31) || 2 ^ 31 ≤ count

/-- The wording of an error. -/
def message : Unreadable → Text
  | .integer e => e.message
  | .float t => ("could not convert string to float: " : Text) ++ t.quoted
  | .amount e => e.message
  | .calendar e => e.message
  | .days count =>
    if exceedsWord count then "Python int too large to convert to C int"
    else ("days=" : Text) ++ Text.ofInt count ++ ("; must have magnitude <= 999999999" : Text)
  | .uuid => "badly formed hexadecimal UUID string"
  | .address t => t.quoted ++ (" does not appear to be an IPv4 or IPv6 address" : Text)
  | .hexadecimal position =>
    ("non-hexadecimal number found in fromhex() arg at position " : Text) ++ Text.ofNat position

end Unreadable

/-- A double: digits of any script, with white space around it and single underscores between
digits. -/
def floatOfText (t : Text) : Except Unreadable Double :=
  let plain := (Text.trim CodePoint.isWhiteSpace t).withAsciiDigits
  let spelled :=
    if Text.underscoresJoin CodePoint.isDigit false plain then
      Double.ofText? (plain.filter (· ≠ CodePoint.scalar '_'))
    else none
  match spelled with
  | some x => .ok x
  | none => .error (.float t)

/-- The number of microseconds of a duration, which has less than a milliard of days on either
side. -/
def durationOfText (t : Text) : Except Unreadable Int := do
  let n ← (Text.integer 10 t).mapError .integer
  let days := n / 86400000000
  if 999999999 < days.natAbs then .error (.days days) else .ok n

/-- The number of an identifier of 128 bits: 32 characters that spell an integer in base 16, with
hyphens anywhere, perhaps in braces, and the names of the scheme anywhere. -/
def uuidOfText (t : Text) : Except Unreadable Nat := do
  let isBrace (c : CodePoint) : Bool := c = .scalar '\x7b' || c = .scalar '\x7d'
  let digits := (Text.trim isBrace (Text.without "uuid:" (Text.without "urn:" t))).filter
    (· ≠ CodePoint.scalar '-')
  if digits.length ≠ 32 then .error .uuid
  else return (← (Text.integer 16 digits).mapError .integer).toNat

/-- The kinds of values that texts spell. -/
inductive Spelling
  | int
  | float
  | amount
  | moment
  | date
  | clock
  | duration
  | uuid
  | bytes
  | path
  | address
  | pattern
  | secret

/-- The value of a kind that a text spells. -/
def Spelling.read (t : Text) : Spelling → Except Unreadable Value
  | .int => ((Text.integer 10 t).mapError .integer).map .int
  | .float => (floatOfText t).map .float
  | .amount => ((Amount.ofText t).mapError .amount).map .amount
  | .moment => ((Moment.ofText t).mapError .calendar).map .moment
  | .date => ((Date.ofText t).mapError .calendar).map .date
  | .clock => ((Clock.ofText t).mapError .calendar).map .clock
  | .duration => (durationOfText t).map .duration
  | .uuid => (uuidOfText t).map .uuid
  | .bytes => ((Hexadecimal.decode t).mapError .hexadecimal).map .bytes
  | .path => .ok (.path (normalPath t))
  | .address =>
    match Address.ofText? t with
    | some a => .ok (.address a)
    | none => .error (.address t)
  | .pattern => .ok (.pattern t)
  | .secret => .ok (.secret t)

end Value

end JsonApi
