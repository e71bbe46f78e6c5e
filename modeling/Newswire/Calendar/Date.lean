/-!
# Dates

Days of the Gregorian calendar, which is continued without end in both directions. The serial number
of a day counts from 1970-01-01.
-/

namespace Newswire.Calendar

def isLeapYear (year : Int) : Bool :=
  year % 4 == 0 && (year % 100 != 0 || year % 400 == 0)

/-- The number of days of a month, which is given as 1 to 12. -/
def monthLength (year : Int) (month : Nat) : Nat :=
  match month with
  | 2 => if isLeapYear year then 29 else 28
  | 4 | 6 | 9 | 11 => 30
  | _ => 31

structure Date where
  year : Int
  month : Nat
  day : Nat
  deriving Repr, DecidableEq, Inhabited

namespace Date

/-- The years that dates are read in. -/
def firstYear : Int := -262143

def lastYear : Int := 262142

/-- There is such a day, in a year that dates are read in. -/
def exists? (d : Date) : Bool :=
  firstYear ≤ d.year && d.year ≤ lastYear && 1 ≤ d.month && d.month ≤ 12
    && 1 ≤ d.day && d.day ≤ monthLength d.year d.month

/-- The days of a year before a month. -/
def daysBefore (year : Int) (month : Nat) : Nat :=
  (List.range (month - 1)).foldl (fun days m => days + monthLength year (m + 1)) 0

/-- The serial number of the first day of a year. -/
def yearStart (year : Int) : Int :=
  365 * (year - 1970) + ((year - 1) / 4 - (year - 1) / 100 + (year - 1) / 400) - 477

/-- The serial number of a day. A day past the end of its month counts on into the next one. -/
def serial (d : Date) : Int :=
  yearStart d.year + daysBefore d.year d.month + d.day - 1

/-- The number of the day within its year, counted from 1. -/
def ordinal (d : Date) : Nat := daysBefore d.year d.month + d.day

/-- The year in which a day lies. A cycle of four hundred years has 146097 days. -/
def yearOf (serial : Int) : Int :=
  let guess := (serial * 400) / 146097 + 1970
  if serial < yearStart guess then guess - 1
  else if yearStart (guess + 1) ≤ serial then guess + 1
  else guess

/-- Month and day of the day number `n` of a year, counted from 0; `months` are still to come. -/
def placeIn (year : Int) (n : Nat) : List Nat → Nat × Nat
  | [] => (12, n + 1)
  | m :: rest =>
    if n < monthLength year m then (m, n + 1) else placeIn year (n - monthLength year m) rest

def ofSerial (serial : Int) : Date :=
  let year := yearOf serial
  let (month, day) :=
    placeIn year (serial - yearStart year).toNat [1, 2, 3, 4, 5, 6, 7, 8, 9, 10, 11, 12]
  ⟨year, month, day⟩

/-- The day of the week, from 0 for Sunday. -/
def weekday (d : Date) : Nat := ((d.serial + 4) % 7).toNat

/-- The number of days since Monday. -/
def daysSinceMonday (d : Date) : Nat := (d.weekday + 6) % 7

/-- The number of the week when the first Sunday of the year begins week 1. -/
def weekFromSunday (d : Date) : Nat := (d.ordinal + 6 - d.weekday) / 7

/-- The number of the week when the first Monday of the year begins week 1. -/
def weekFromMonday (d : Date) : Nat := (d.ordinal + 6 - d.daysSinceMonday) / 7

/-- Year and number of the week of a day, where weeks begin on Monday and belong to the year that
their Thursday lies in. -/
def week (d : Date) : Int × Nat :=
  let thursday := ofSerial (d.serial + 3 - d.daysSinceMonday)
  (thursday.year, (thursday.ordinal - 1) / 7 + 1)

end Date

end Newswire.Calendar
