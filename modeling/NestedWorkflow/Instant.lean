/-!
# Instants

A point in time by its date and time of day in UTC, down to the nanosecond.  The sixty-first second
of a minute is the leap second.  Fields outside the calendar are excluded by the type.
-/

namespace NestedWorkflow

/-- Leap years of the Gregorian calendar. -/
def isLeapYear (year : Int) : Bool :=
  year % 4 == 0 && (year % 100 != 0 || year % 400 == 0)

/-- Number of days in a month. -/
def daysInMonth (year : Int) (month : Nat) : Nat :=
  if month = 2 then (if isLeapYear year then 29 else 28)
  else if month = 4 ∨ month = 6 ∨ month = 9 ∨ month = 11 then 30
  else 31

/-- A day of the calendar. -/
structure Day where
  year : Int
  month : Nat
  day : Nat
deriving DecidableEq

namespace Day

/-- The first year with dates. -/
def minYear : Int := -262143

/-- The last year with dates. -/
def maxYear : Int := 262142

/-- The day exists. -/
def Valid (d : Day) : Prop :=
  minYear ≤ d.year ∧ d.year ≤ maxYear ∧ 1 ≤ d.month ∧ d.month ≤ 12 ∧
    1 ≤ d.day ∧ d.day ≤ daysInMonth d.year d.month

instance (d : Day) : Decidable d.Valid := by
  unfold Valid
  infer_instance

/-- The day after. -/
def next (d : Day) : Day :=
  if d.day < daysInMonth d.year d.month then ⟨d.year, d.month, d.day + 1⟩
  else if d.month < 12 then ⟨d.year, d.month + 1, 1⟩
  else ⟨d.year + 1, 1, 1⟩

/-- The day before. -/
def previous (d : Day) : Day :=
  if 1 < d.day then ⟨d.year, d.month, d.day - 1⟩
  else if 1 < d.month then ⟨d.year, d.month - 1, daysInMonth d.year (d.month - 1)⟩
  else ⟨d.year - 1, 12, 31⟩

end Day

/-- A time of day. -/
structure TimeOfDay where
  hour : Nat
  minute : Nat
  second : Nat
  nano : Nat
deriving DecidableEq

namespace TimeOfDay

/-- The time exists; second sixty is the leap second. -/
def Valid (t : TimeOfDay) : Prop :=
  t.hour < 24 ∧ t.minute < 60 ∧ t.second ≤ 60 ∧ t.nano < 1000000000

instance (t : TimeOfDay) : Decidable t.Valid := by
  unfold Valid
  infer_instance

end TimeOfDay

/-- A point in time, in UTC. -/
structure Instant where
  date : Day
  time : TimeOfDay
  dateValid : date.Valid
  timeValid : time.Valid
deriving DecidableEq

namespace Instant

/-- The instant of a day and a time of day, if both exist. -/
def of? (date : Day) (time : TimeOfDay) : Option Instant :=
  if h : date.Valid ∧ time.Valid then some ⟨date, time, h.1, h.2⟩ else none

/-- The instant at which clocks that are `offset` minutes ahead of UTC show a day and a time. -/
def ofLocal? (date : Day) (time : TimeOfDay) (offset : Int) : Option Instant :=
  if date.Valid then
    let minutes : Int := 60 * time.hour + time.minute - offset
    let date :=
      if minutes < 0 then date.previous
      else if minutes < 1440 then date
      else date.next
    let minutes := (minutes % 1440).toNat
    of? date { time with hour := minutes / 60, minute := minutes % 60 }
  else none

end Instant

end NestedWorkflow
