import Newswire.Calendar.Moment

/-!
# Writing moments

The form with a `T` between date and time, in universal time. A fraction of a second is written with
three, six or nine digits, whichever is enough, and not at all when it is zero.
-/

namespace Newswire.Calendar

/-- A number with zeros in front, at least `width` digits. -/
def padded (width n : Nat) : String :=
  let s := toString n
  String.ofList (List.replicate (width - s.length) '0') ++ s

/-- A year in at least four digits, with a sign when these are not enough. -/
def yearText (year : Int) : String :=
  if 0 ≤ year ∧ year ≤ 9999 then padded 4 year.toNat
  else (if year < 0 then "-" else "+") ++ padded 4 year.natAbs

/-- A point and the digits of a fraction, or nothing. -/
def fractionText (nanos : Nat) : String :=
  if nanos = 0 then ""
  else if nanos % 1000000 = 0 then "." ++ padded 3 (nanos / 1000000)
  else if nanos % 1000 = 0 then "." ++ padded 6 (nanos / 1000)
  else "." ++ padded 9 nanos

/-- An offset in hours and minutes, rounded to the nearest minute, with `between` in the middle. -/
def offsetText (between : String) (offset : Int) : String :=
  let minutes := (offset.natAbs + 30) / 60
  (if offset < 0 then "-" else "+") ++ padded 2 (minutes / 60) ++ between ++ padded 2 (minutes % 60)

def Reading.timestamp (r : Reading) (offset : Int) : String :=
  yearText r.date.year ++ "-" ++ padded 2 r.date.month ++ "-" ++ padded 2 r.date.day ++ "T"
    ++ padded 2 r.hour ++ ":" ++ padded 2 r.minute ++ ":" ++ padded 2 r.writtenSecond
    ++ fractionText r.fraction ++ offsetText ":" offset

/-- The moment in universal time. -/
def Moment.timestamp (m : Moment) : String := (m.reading 0).timestamp 0

end Newswire.Calendar
