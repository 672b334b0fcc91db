/-!
# Calendar — days, and times of a day

A day is counted in the proleptic Gregorian calendar. A time of a day may
have an offset, and two times with offsets are one moment where they differ
by the difference of their offsets: `Moment.isSame`.
-/


namespace Conformance

/-- A day of the calendar. -/
structure Day where
  year : Nat
  month : Nat
  day : Nat
deriving DecidableEq, Repr

/-- A time of a day: hours, minutes, seconds, microseconds, and the offset in
minutes where one was given. -/
structure Clock where
  hour : Nat
  minute : Nat
  second : Nat
  micro : Nat
  offset : Option Int
deriving DecidableEq, Repr

/-- A day and a time. -/
structure Moment where
  day : Day
  clock : Clock
deriving DecidableEq, Repr

namespace Day

/-- Whether a year has a day more. -/
def isLeap (year : Nat) : Bool := year % 4 == 0 && (year % 100 != 0 || year % 400 == 0)

/-- The number of days of a month. -/
def daysOf (year month : Nat) : Nat :=
  if month = 2 then if isLeap year then 29 else 28
  else if month = 4 ∨ month = 6 ∨ month = 9 ∨ month = 11 then 30
  else 31

/-- The days before a year, from the first year on. -/
def daysBefore (year : Nat) : Nat :=
  let past := year - 1
  365 * past + past / 4 - past / 100 + past / 400

/-- The number of a day, counted from the first one on. -/
def number (d : Day) : Nat :=
  (List.range (d.month - 1)).foldl (fun days m => days + daysOf d.year (m + 1))
    (daysBefore d.year + d.day)

end Day

namespace Moment

/-- The minutes of a moment, counted from the first day at the offset zero. -/
def minutes (m : Moment) : Int :=
  1440 * m.day.number + 60 * m.clock.hour + m.clock.minute - m.clock.offset.getD 0

/-- Whether two moments are one. A moment with an offset and one without are
never comparable. -/
def isSame (a b : Moment) : Bool :=
  a.clock.offset.isSome == b.clock.offset.isSome && a.minutes == b.minutes &&
    a.clock.second == b.clock.second && a.clock.micro == b.clock.micro

end Moment

end Conformance
