import Newswire.Calendar.Date

/-!
# Zones and their rules

A zone is a sequence of stretches, each with a standard offset and a way to save daylight. The rules
for saving say on which days of which years the clocks are changed.
-/

namespace Newswire.Calendar

/-- The clock by which the time of a change is told. -/
inductive Clock where
  | wall
  | standard
  | universal
  deriving Repr, DecidableEq

/-- The day of a month on which something happens. Weekdays count from 0 for Sunday. -/
inductive DayRule where
  | day (n : Nat)
  | onOrAfter (weekday n : Nat)
  | onOrBefore (weekday n : Nat)
  | last (weekday : Nat)
  deriving Repr, DecidableEq

/-- The serial number of the day in a month of a year. -/
def DayRule.serial (year : Int) (month : Nat) : DayRule → Int
  | day n => Date.serial ⟨year, month, n⟩
  | onOrAfter w n => Date.serial ⟨year, month, n⟩ + (w + 7 - Date.weekday ⟨year, month, n⟩) % 7
  | onOrBefore w n => Date.serial ⟨year, month, n⟩ - (Date.weekday ⟨year, month, n⟩ + 7 - w) % 7
  | last w =>
    let n := monthLength year month
    Date.serial ⟨year, month, n⟩ - (Date.weekday ⟨year, month, n⟩ + 7 - w) % 7

/-- A time of the year. -/
structure Annual where
  month : Nat := 1
  day : DayRule := .day 1
  /-- Seconds since midnight. -/
  time : Int := 0
  clock : Clock := .wall
  deriving Repr, DecidableEq

/-- The moment in a year, where standard time is `offset` seconds ahead and `saving` more are
added. -/
def Annual.moment (a : Annual) (year offset saving : Int) : Int :=
  let clock := a.day.serial year a.month * 86400 + a.time
  match a.clock with
  | .wall => clock - offset - saving
  | .standard => clock - offset
  | .universal => clock

/-- From the time it names the clocks are `saving` seconds ahead of standard time. -/
structure SavingRule where
  firstYear : Int
  lastYear : Option Int
  change : Annual
  saving : Int
  letters : String
  deriving Repr, DecidableEq

def SavingRule.appliesIn (r : SavingRule) (year : Int) : Bool :=
  r.firstYear ≤ year && r.lastYear.all (year ≤ ·)

inductive Saving where
  | fixed (seconds : Int)
  | byRules (rules : List SavingRule)
  deriving Repr

structure Stretch where
  offset : Int
  saving : Saving
  form : String
  ending : Option (Int × Annual)
  deriving Repr

abbrev Zone := List Stretch

end Newswire.Calendar
