import JsonApi.Encoding.Utf8
import JsonApi.Text.Quoted

/-!
# Dates

A text gives the day of a date by its month or by its week: weeks start on Monday and belong to the
year in which their Thursday lies.  The fields are separated by hyphens or stand side by side.  The
form that is written has the month and the hyphens.
-/

namespace JsonApi

/-- The number of exactly so many digits at the front of a text, and the text behind them. -/
def Text.number? (width : Nat) (t : Text) : Option (Nat × Text) :=
  let front := t.take width
  if front.length = width ∧ front.all CodePoint.isDigit then
    some (Nat.ofDigitChars 10 (front.filterMap CodePoint.toChar?) 0, t.drop width)
  else none

/-- A number with zeros in front up to a width. -/
def Text.padded (width n : Nat) : Text :=
  let digits := Nat.toDigits 10 n
  Text.ofChars (List.replicate (width - digits.length) '0' ++ digits)

/-! ### Errors -/

/-- Why a text spells no date and no time of day. -/
inductive Calendar.Error
  | malformed (t : Text)
  | year (n : Nat)
  | month
  | day
  | hour
  | minute
  | second
  /-- A distance from universal time of a day or more, in microseconds. -/
  | offset (microseconds : Int)
  deriving DecidableEq

/-- The days, seconds and microseconds of a duration, of which only the days may be negative. -/
def Calendar.Error.durationText (microseconds : Int) : Text :=
  let seconds := microseconds / 1000000
  let parts : List (Text × Int) :=
    [("days=", seconds / 86400), ("seconds=", seconds % 86400),
      ("microseconds=", microseconds % 1000000)]
  Text.join ", " ((parts.filter (·.2 ≠ 0)).map fun (name, n) => name ++ Text.ofInt n)

/-- The wording of an error. -/
def Calendar.Error.message : Calendar.Error → Text
  | .malformed t => ("Invalid isoformat string: " : Text) ++ t.quoted
  | .year n => ("year " : Text) ++ Text.ofNat n ++ (" is out of range" : Text)
  | .month => "month must be in 1..12"
  | .day => "day is out of range for month"
  | .hour => "hour must be in 0..23"
  | .minute => "minute must be in 0..59"
  | .second => "second must be in 0..59"
  | .offset microseconds =>
    ("offset must be a timedelta strictly between -timedelta(hours=24) and " : Text) ++
      ("timedelta(hours=24), not datetime.timedelta(" : Text) ++ durationText microseconds ++
      (")." : Text)

/-! ### The calendar -/

/-- A day of the calendar. -/
structure Date where
  year : Nat
  month : Nat
  day : Nat
  deriving DecidableEq

namespace Date

/-- Whether a year has a day more than others. -/
def isLeap (year : Nat) : Bool := year % 4 = 0 && (year % 100 ≠ 0 || year % 400 = 0)

/-- The number of days of a month. -/
def daysIn (year month : Nat) : Nat :=
  if month = 2 then if isLeap year then 29 else 28
  else if month = 4 ∨ month = 6 ∨ month = 9 ∨ month = 11 then 30 else 31

/-- The number of days of a year. -/
def daysOf (year : Nat) : Nat := if isLeap year then 366 else 365

/-- The number of days from the start of the year one to that of another. -/
def daysUpTo (year : Nat) : Nat :=
  let y := year - 1
  y * 365 + y / 4 - y / 100 + y / 400

/-- The day of the week on which a year after the year zero starts, Monday being zero. -/
def firstWeekday (year : Nat) : Nat := daysUpTo year % 7

/-- The number of weeks of a year. -/
def weeksOf (year : Nat) : Nat :=
  if firstWeekday year = 3 ∨ (firstWeekday year = 2 ∧ isLeap year) then 53 else 52

/-- The date that is so many days behind the first day of the first one of some months. -/
def daysBehind (year : Nat) : Nat → List Nat → Date
  | n, [] => ⟨year, 12, n + 1⟩
  | n, month :: months =>
    if n < daysIn year month then ⟨year, month, n + 1⟩
    else daysBehind year (n - daysIn year month) months

/-- The date that is so many days behind the first day of a year.  Days before it lie in the year
before, and days past the last one in the year after. -/
def ofDayOfYear (year : Nat) (n : Int) : Date :=
  let months := List.range' 1 12
  if n < 0 then daysBehind (year - 1) (n + daysOf (year - 1)).toNat months
  else if n < daysOf year then daysBehind year n.toNat months
  else daysBehind (year + 1) (n - daysOf year).toNat months

/-- The date of a day of a week.  The year zero has weeks, but they hold no months. -/
def ofWeek? (year week day : Nat) : Option Date :=
  let weeks := if year = 0 then 52 else weeksOf year
  if 1 ≤ week ∧ week ≤ weeks ∧ 1 ≤ day ∧ day ≤ 7 then
    if year = 0 then some ⟨1, 0, 0⟩
    else
      let first := firstWeekday year
      let monday : Int := if first ≤ 3 then -(first : Int) else 7 - first
      some (ofDayOfYear year (monday + 7 * (week - 1 : Nat) + (day - 1 : Nat)))
  else none

/-- The number of days of the months before a month. -/
def daysBefore (year month : Nat) : Nat :=
  ((List.range' 1 (month - 1)).map (daysIn year)).foldl (· + ·) 0

/-- The number of a day, counted from the start of the year one. -/
def dayNumber (d : Date) : Nat :=
  daysUpTo d.year + daysBefore d.year d.month + (d.day - 1)

/-- A date, if there is such a year, such a month and such a day. -/
def check (d : Date) : Except Calendar.Error Date :=
  if d.year < 1 ∨ 9999 < d.year then .error (.year d.year)
  else if d.month < 1 ∨ 12 < d.month then .error .month
  else if d.day < 1 ∨ daysIn d.year d.month < d.day then .error .day
  else .ok d

/-! ### Texts -/

/-- The text behind a hyphen, if there has to be one. -/
def hyphen? (separated : Bool) (t : Text) : Option Text :=
  match separated, t with
  | false, t => some t
  | true, .scalar '-' :: t => some t
  | true, _ => none

/-- The date that the front of a text spells, which need not exist.  The day of a week is Monday
where the text ends with the week. -/
def fields? (t : Text) : Option Date := do
  let (year, t) ← Text.number? 4 t
  let separated := t.head? = some (.scalar '-')
  let t := if separated then t.drop 1 else t
  match t with
  | .scalar 'W' :: t =>
    let (week, t) ← Text.number? 2 t
    if t = [] then ofWeek? year week 1
    else
      let (day, _) ← Text.number? 1 (← hyphen? separated t)
      ofWeek? year week day
  | t =>
    let (month, t) ← Text.number? 2 t
    let (day, _) ← Text.number? 2 (← hyphen? separated t)
    return ⟨year, month, day⟩

/-- The date that a text spells.  The length of a text, in bytes, is that of one of the forms; what
stands behind the fields does not count. -/
def ofText (t : Text) : Except Calendar.Error Date :=
  let size := (Utf8.encodeScalars t).length
  match if t.isScalar ∧ (size = 7 ∨ size = 8 ∨ size = 10) then fields? t else none with
  | some d => d.check
  | none => .error (.malformed t)

/-- The text of a date. -/
def text (d : Date) : Text :=
  Text.join "-" [Text.padded 4 d.year, Text.padded 2 d.month, Text.padded 2 d.day]

end Date

end JsonApi
