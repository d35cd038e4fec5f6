import JsonApi.Value.Date

/-!
# Times of day

A time of day may have an offset from universal time.  Texts separate its fields by colons, or
leave the colons out; the form that is written always has them.
-/

namespace JsonApi

/-- A distance from universal time. -/
structure Offset where
  negative : Bool
  /-- The distance in microseconds. -/
  distance : Nat
  deriving DecidableEq

/-- The signed distance in microseconds. -/
def Offset.microseconds (o : Offset) : Int := if o.negative then -(o.distance : Int) else o.distance

/-- A time of day. -/
structure Clock where
  hour : Nat
  minute : Nat
  second : Nat
  microsecond : Nat
  offset : Option Offset
  deriving DecidableEq

namespace Clock

/-! ### Reading -/

/-- The fields at the front of a time. -/
structure Fields where
  /-- The hours, minutes and seconds, as far as they are given. -/
  units : List Nat
  microsecond : Nat
  /-- What stands behind the fields. -/
  rest : Text

namespace Fields

/-- The hours. -/
def hour (f : Fields) : Nat := f.units[0]?.getD 0

/-- The minutes. -/
def minute (f : Fields) : Nat := f.units[1]?.getD 0

/-- The seconds. -/
def second (f : Fields) : Nat := f.units[2]?.getD 0

/-- The microseconds of the whole time. -/
def total (f : Fields) : Nat :=
  ((f.hour * 60 + f.minute) * 60 + f.second) * 1000000 + f.microsecond

/-- Whether nothing stands behind the fields; a null character ends a text. -/
def isComplete (f : Fields) : Bool := f.rest.head?.all (· = .scalar '\x00')

/-- The microseconds that a text of digits behind a point spells; those past the sixth do not
count. -/
def fraction? (t : Text) : Option Fields := do
  let six := t.take 6
  if six.all CodePoint.isDigit then
    let digits := (six.filterMap CodePoint.toChar?).rightpad 6 '0'
    return ⟨[], Nat.ofDigitChars 10 digits 0, t.dropWhile CodePoint.isDigit⟩
  else none

/-- The fields of a text that has so many units at most.  Once it is known whether colons separate
the units, that is given.  A single character that ends the text belongs to no field. -/
def ofText? : Nat → Option Bool → Text → Option Fields
  | 0, _, t => fraction? t
  | count + 1, separated, t => do
    let (n, rest) ← Text.number? 2 t
    match rest with
    | [] => return ⟨[n], 0, []⟩
    | [c] => if c.isAscii then return ⟨[n], 0, [c]⟩ else none
    | c :: more =>
      let separated := separated.getD (c = .scalar ':')
      let f ←
        if c = .scalar '.' ∨ c = .scalar ',' then fraction? more
        else if !separated then ofText? count separated rest
        else if c = .scalar ':' then ofText? count separated more
        else none
      return { f with units := n :: f.units }

end Fields

/-- Whether the offset of a time starts at a character. -/
def startsOffset (c : CodePoint) : Bool := c = .scalar '+' || c = .scalar '-' || c = .scalar 'Z'

/-- The number of microseconds that the text of an offset stands for.  What is less than a second
on its own does not count. -/
def offset? : Text → Option Int
  | .scalar 'Z' :: t => if t.head?.all (· = .scalar '\x00') then some 0 else none
  | .scalar sign :: t => do
    let f ← Fields.ofText? 3 none t
    if !f.isComplete then none
    else if f.total < 1000000 then some 0
    else some (if sign = '-' then -(f.total : Int) else f.total)
  | _ => none

/-- The time of day that a text spells, which need not exist, and the microseconds of its
offset. -/
def fields? (t : Text) : Option (Fields × Option Int) := do
  let f ← Fields.ofText? 3 none (t.takeWhile (! startsOffset ·))
  match t.dropWhile (! startsOffset ·) with
  | [] => if f.isComplete ∧ t.isScalar then return (f, none) else none
  | rest => if t.isScalar then return (f, some (← offset? rest)) else none

/-- The number of microseconds of a day. -/
def microsecondsOfDay : Nat := 86400000000

/-- An offset of less than a day. -/
def checkOffset (microseconds : Int) : Except Calendar.Error Offset :=
  if microsecondsOfDay ≤ microseconds.natAbs then .error (.offset microseconds)
  else .ok ⟨decide (microseconds < 0), microseconds.natAbs⟩

/-- The time of day with the given fields, if there is such an hour, minute and second. -/
def check (f : Fields) (offset : Option Offset) : Except Calendar.Error Clock :=
  if 24 ≤ f.hour then .error .hour
  else if 60 ≤ f.minute then .error .minute
  else if 60 ≤ f.second then .error .second
  else .ok ⟨f.hour, f.minute, f.second, f.microsecond, offset⟩

/-- The time of day that a text spells, which may have a letter in front. -/
def ofText (t : Text) : Except Calendar.Error Clock :=
  match fields? (if t.head? = some (.scalar 'T') then t.drop 1 else t) with
  | some (f, offset) => do check f (← offset.mapM checkOffset)
  | none => .error (.malformed t)

/-! ### Comparing -/

/-- The microseconds from midnight to a time of day where it is told. -/
def sinceMidnight (c : Clock) : Nat :=
  ((c.hour * 60 + c.minute) * 60 + c.second) * 1000000 + c.microsecond

/-- The microseconds from midnight to a time of day in universal time, as far as its offset
tells. -/
def universal? (c : Clock) : Option Int := c.offset.map fun o => c.sinceMidnight - o.microseconds

/-- Whether two times of day are the same: both are told without an offset and have the same
fields, or both have the same microseconds and lie equally far behind midnight in universal
time. -/
def same (a b : Clock) : Bool :=
  match a.universal?, b.universal? with
  | some m, some n => m == n && a.microsecond == b.microsecond
  | none, none => a == b
  | _, _ => false

/-! ### Writing -/

/-- The digits of microseconds behind a point, unless there are none. -/
def fractionText (microsecond : Nat) : Text :=
  if microsecond = 0 then [] else .scalar '.' :: Text.padded 6 microsecond

/-- The text of an offset. -/
def offsetText (o : Offset) : Text :=
  let second := o.distance / 1000000
  let seconds : Text :=
    if second % 60 = 0 ∧ o.distance % 1000000 = 0 then []
    else (":" : Text) ++ Text.padded 2 (second % 60) ++ fractionText (o.distance % 1000000)
  (if o.negative then ("-" : Text) else ("+" : Text)) ++ Text.padded 2 (second / 3600) ++
    (":" : Text) ++ Text.padded 2 (second / 60 % 60) ++ seconds

/-- The text of a time of day. -/
def text (c : Clock) : Text :=
  Text.padded 2 c.hour ++ (":" : Text) ++ Text.padded 2 c.minute ++ (":" : Text) ++
    Text.padded 2 c.second ++ fractionText c.microsecond ++
    match c.offset with
    | none => []
    | some o => offsetText o

end Clock

end JsonApi
