import Newswire.Calendar.Date
import Newswire.Instant

/-!
# Moments

A moment is counted in seconds since the beginning of 1970 in universal time, with the nanoseconds
that have passed since. A leap second is the second before it, with a thousand million nanoseconds
more.
-/

namespace Newswire.Calendar

structure Moment where
  seconds : Int
  nanos : Nat
  deriving Repr, DecidableEq, Inhabited

def nanosPerSecond : Nat := 1000000000

def secondsPerDay : Int := 86400

/-- A moment as a calendar and a clock show it. -/
structure Reading where
  date : Date
  hour : Nat
  minute : Nat
  second : Nat
  nanos : Nat
  deriving Repr, DecidableEq, Inhabited

namespace Reading

/-- The second as it is written, which is one more in a leap second. -/
def writtenSecond (r : Reading) : Nat := r.second + r.nanos / nanosPerSecond

/-- The nanoseconds within the written second. -/
def fraction (r : Reading) : Nat := r.nanos % nanosPerSecond

/-- The hour on a clock of twelve hours. -/
def hour12 (r : Reading) : Nat := if r.hour % 12 = 0 then 12 else r.hour % 12

/-- The seconds since the beginning of 1970 on the clock that shows this reading. -/
def clockSeconds (r : Reading) : Int :=
  r.date.serial * secondsPerDay + r.hour * 3600 + r.minute * 60 + r.second

end Reading

namespace Moment

/-- Whole milliseconds; a leap second counts on top of the second before it. -/
def millis (m : Moment) : Int := m.seconds * 1000 + (m.nanos / 1000000 : Nat)

def ofInstant (t : Instant) : Moment :=
  ⟨t.nanos / nanosPerSecond, (t.nanos % nanosPerSecond).toNat⟩

/-- Nanoseconds from `b` to `a`. A leap second between two times of day counts on top. -/
def nanosSince (a b : Moment) : Int :=
  let ta := a.seconds % secondsPerDay
  let tb := b.seconds % secondsPerDay
  let leap : Int :=
    if tb < ta ∧ nanosPerSecond ≤ b.nanos then 1
    else if ta < tb ∧ nanosPerSecond ≤ a.nanos then -1
    else 0
  (a.seconds - b.seconds + leap) * nanosPerSecond + a.nanos - b.nanos

/-- What a clock shows that is `offset` seconds ahead of universal time. -/
def reading (m : Moment) (offset : Int) : Reading :=
  let clock := m.seconds + offset
  let time := (clock % secondsPerDay).toNat
  ⟨Date.ofSerial (clock / secondsPerDay), time / 3600, time / 60 % 60, time % 60, m.nanos⟩

/-- The moment at which a clock that is `offset` seconds ahead shows a reading, if there is such a
reading. Second 60 is a leap second, which any minute may have. -/
def ofReading? (r : Reading) (offset : Int) : Option Moment :=
  if r.date.exists? ∧ r.hour < 24 ∧ r.minute < 60 ∧ r.second ≤ 60 then
    let r := if r.second = 60 then { r with second := 59, nanos := r.nanos + nanosPerSecond } else r
    let seconds := r.clockSeconds - offset
    let day := Date.ofSerial (seconds / secondsPerDay)
    if Date.firstYear ≤ day.year ∧ day.year ≤ Date.lastYear then some ⟨seconds, r.nanos⟩ else none
  else none

end Moment

end Newswire.Calendar
