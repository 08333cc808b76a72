import PluginOrder.Value.Display

/-!
# The calendar

Which days there are, which times of day, and how far a clock may be from universal time.  Values
of the types `Date` and `Moment` are made here from numbers that were read.
-/

namespace PluginOrder

/-- Why numbers name no day or time. -/
inductive CalendarFault where
  | noYear (year : Nat)
  | noMonth
  | noDay
  | noHour
  | noMinute
  | noSecond
  /-- The distance from universal time, in minutes, is a day or more. -/
  | offsetTooLarge (minutes : Int)
  deriving DecidableEq, Repr

/-- A fault in words. -/
def CalendarFault.message : CalendarFault → String
  | .noYear year => "year " ++ toString year ++ " is out of range"
  | .noMonth => "month must be in 1..12"
  | .noDay => "day is out of range for month"
  | .noHour => "hour must be in 0..23"
  | .noMinute => "minute must be in 0..59"
  | .noSecond => "second must be in 0..59"
  | .offsetTooLarge minutes =>
    "offset must be a timedelta strictly between -timedelta(hours=24) and timedelta(hours=24), " ++
      "not " ++ literalOfMinutes minutes ++ "."

namespace Date

/-- Whether a year has a leap day. -/
def isLeap (year : Nat) : Bool := year % 4 == 0 && (year % 100 != 0 || year % 400 == 0)

/-- The number of days of a month. -/
def daysIn (year month : Nat) : Nat :=
  if month = 2 then (if isLeap year then 29 else 28)
  else if month = 4 ∨ month = 6 ∨ month = 9 ∨ month = 11 then 30
  else 31

/-- The day that numbers name. -/
def of (year month day : Nat) : Except CalendarFault Date :=
  if year < 1 ∨ 9999 < year then .error (.noYear year)
  else if month < 1 ∨ 12 < month then .error .noMonth
  else if day < 1 ∨ daysIn year month < day then .error .noDay
  else .ok ⟨year, month, day⟩

/-- The number of days from the first day of the first year on. -/
def ordinal (d : Date) : Nat :=
  let years := d.year - 1
  years * 365 + years / 4 - years / 100 + years / 400 +
    ((List.range (d.month - 1)).map fun month => daysIn d.year (month + 1)).foldr (· + ·) 0 +
    (d.day - 1)

end Date

namespace Moment

/-- Checks a distance from universal time. -/
def checkOffset (minutes : Int) : Except CalendarFault Int :=
  if minutes.natAbs < 1440 then .ok minutes else .error (.offsetTooLarge minutes)

/-- The moment that numbers name. -/
def of (year month day hour minute second microsecond : Nat) (offset : Option Int) :
    Except CalendarFault Moment := do
  let date ← Date.of year month day
  if 23 < hour then .error .noHour
  else if 59 < minute then .error .noMinute
  else if 59 < second then .error .noSecond
  else .ok ⟨date, hour, minute, second, microsecond, offset⟩

/-- The number of microseconds from the first moment of the first year on, in universal time if
the distance from it is known. -/
def instant (m : Moment) : Int :=
  let minutes : Int := ((m.date.ordinal * 24 + m.hour) * 60 + m.minute : Nat)
  ((minutes - m.offset.getD 0) * 60 + m.second) * 1000000 + m.microsecond

/-- Whether two moments are the same, and both or neither are tied to universal time. -/
def agrees (a b : Moment) : Bool := a.offset.isSome == b.offset.isSome && a.instant == b.instant

end Moment

end PluginOrder
