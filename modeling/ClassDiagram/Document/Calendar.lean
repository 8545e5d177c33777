/-!
# Days and points of time

Days of the calendar and points of time on them.  Days are counted from the first day of the year one, so
that points of time with different zones can be compared.
-/

set_option autoImplicit false

namespace ClassDiagram

/-- A day of the calendar. -/
structure Date where
  year : Nat
  month : Nat
  day : Nat
  deriving Repr, DecidableEq

/-- A point of time on a day, with the minutes that its zone is ahead of universal time when a zone
is given. -/
structure Moment where
  date : Date
  hour : Nat
  minute : Nat
  second : Nat
  microsecond : Nat
  offset : Option Int
  deriving Repr, DecidableEq

/-- Whether a year has a day more than the others. -/
def isLeapYear (year : Nat) : Bool := (year % 4 == 0 && year % 100 != 0) || year % 400 == 0

/-- The number of days of a month. -/
def daysOfMonth (year month : Nat) : Nat :=
  if month == 2 then (if isLeapYear year then 29 else 28)
  else if [4, 6, 9, 11].contains month then 30
  else 31

/-- The number of days in the years before a year. -/
def daysBeforeYear (year : Nat) : Nat :=
  let past := year - 1
  past * 365 + past / 4 - past / 100 + past / 400

/-- The number of days in a year before its month with a number. -/
def daysBeforeMonth (year : Nat) : Nat → Nat
  | 0 => 0
  | 1 => 0
  | month + 1 => daysBeforeMonth year month + daysOfMonth year month

/-- The number of a day, counted from the first day of the year one. -/
def Date.number (d : Date) : Nat := daysBeforeYear d.year + daysBeforeMonth d.year d.month + d.day

namespace Moment

/-- The minutes up to a point of time, as its own zone counts them. -/
def localMinutes (m : Moment) : Int := ((m.date.number * 24 + m.hour) * 60 + m.minute : Nat)

/-- Whether two points of time are one.  With zones the minutes of universal time count, so that two
clocks may differ; without zones the clocks must agree, and a point with a zone is never one without. -/
def isSame (a b : Moment) : Bool :=
  match a.offset, b.offset with
  | none, none => a == b
  | some x, some y =>
    a.localMinutes - x == b.localMinutes - y && a.second == b.second &&
      a.microsecond == b.microsecond
  | _, _ => false

end Moment

end ClassDiagram
