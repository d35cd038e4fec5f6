import JsonApi.Value.Clock

/-!
# Moments

A date with a time of day.  Any character may separate the two in a text, so the forms of a date
tell where it ends; the form that is written separates them by a letter.
-/

namespace JsonApi

/-- A date with a time of day. -/
structure Moment where
  date : Date
  clock : Clock
  deriving DecidableEq

namespace Moment

/-- The number of characters of the date that a text starts with.  A hyphen behind a week is part
of the date unless two digits follow it.  Of digits behind a week without hyphens the first one is
the day, unless they make pairs with a separator in front. -/
def dateLength (t : Text) : Nat :=
  if t.length = 7 then 7
  else if t[4]? = some (.scalar '-') then
    if t[5]? ≠ some (.scalar 'W') then 10
    else if t[8]? ≠ some (.scalar '-') then 8
    else if t[10]?.any CodePoint.isDigit then 8
    else 10
  else if t[4]? = some (.scalar 'W') then
    let digits := ((t.drop 7).takeWhile CodePoint.isDigit).length
    if digits < 2 then 7 + digits else if digits % 2 = 1 then 7 else 8
  else 8

/-- The moment that a text spells: a date, a separator of any kind and a time of day.  A date on its
own is its midnight. -/
def ofText (t : Text) : Except Calendar.Error Moment :=
  let length := dateLength t
  let time : Option (Clock.Fields × Option Int) :=
    if t.length ≤ length then some (⟨[], 0, []⟩, none) else Clock.fields? (t.drop (length + 1))
  match Date.fields? (t.take length), time with
  | some d, some (f, offset) => do
    let offset ← offset.mapM Clock.checkOffset
    return ⟨← d.check, ← Clock.check f offset⟩
  | _, _ => .error (.malformed t)

/-- The microseconds from the start of the year one to a moment in universal time, as far as its
offset tells. -/
def universal? (m : Moment) : Option Int :=
  m.clock.universal?.map fun n => m.date.dayNumber * (Clock.microsecondsOfDay : Int) + n

/-- Whether two moments are the same: both are told without an offset and have the same fields, or
both are one moment of universal time. -/
def same (a b : Moment) : Bool :=
  match a.universal?, b.universal? with
  | some m, some n => m == n
  | none, none => a == b
  | _, _ => false

/-- The text of a moment. -/
def text (m : Moment) : Text := m.date.text ++ ("T" : Text) ++ m.clock.text

end Moment

end JsonApi
