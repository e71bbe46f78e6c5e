import Newswire.Calendar.Moment.Writer

/-!
# Layouts of dates

A layout is text in which a percent sign starts a directive: `%Y` is the year, `%-d` the day without
a zero in front. A layout with a directive that does not exist writes nothing at all.
-/

namespace Newswire.Calendar

/-- A date on the clock of a place. -/
structure Occasion where
  reading : Reading
  /-- Seconds ahead of universal time. -/
  offset : Int
  /-- The short name of the time that is kept there. -/
  zone : String
  deriving Repr, DecidableEq, Inhabited

def Occasion.date (o : Occasion) : Date := o.reading.date

namespace Layout

/-- What a number is filled up with. -/
inductive Padding where
  | none
  | zero
  | space
  deriving Repr, DecidableEq

inductive Quantity where
  | year | century | yearOfCentury
  | weekYear | weekYearOfCentury
  | quarter | month | day | ordinal
  | weekFromSunday | weekFromMonday | week
  | weekday | weekdayFromMonday
  | hour | hour12 | minute | second | nanosecond
  | timestamp
  deriving Repr, DecidableEq

inductive Part where
  | text (c : Char)
  | number (quantity : Quantity) (padding : Padding)
  | dayName (short : Bool)
  | monthName (short : Bool)
  | halfDay (upper : Bool)
  | fraction
  | fractionDigits (point : Bool) (digits : Nat)
  | zone
  | offset (between : String)
  | offsetSeconds
  | offsetHours
  | all
  deriving Repr, DecidableEq

def dayNames : List String :=
  ["Sunday", "Monday", "Tuesday", "Wednesday", "Thursday", "Friday", "Saturday"]

def monthNames : List String :=
  ["January", "February", "March", "April", "May", "June", "July", "August", "September", "October",
   "November", "December"]

/-- A name, or its first three letters. -/
def nameText (short : Bool) (name : Option String) : String :=
  let name := name.getD ""
  if short then String.ofList (name.toList.take 3) else name

/-- Fills a text up to `width` characters; zeros go between the sign and the digits. -/
def fill (padding : Padding) (width : Nat) (sign digits : String) : String :=
  let lack := width - (sign.length + digits.length)
  match padding with
  | .none => sign ++ digits
  | .zero => sign ++ String.ofList (List.replicate lack '0') ++ digits
  | .space => String.ofList (List.replicate lack ' ') ++ sign ++ digits

/-- A number in two places, which is less than 256. Its tens are one character even when there are
more than nine of them. -/
def twoPlaces (padding : Padding) (n : Nat) : String :=
  let ones := Char.ofNat (48 + n % 10)
  match n / 10, padding with
  | 0, .none => String.ofList [ones]
  | 0, .space => String.ofList [' ', ones]
  | tens, _ => String.ofList [Char.ofNat (48 + tens), ones]

/-- A whole number in at least `width` places. -/
def places (padding : Padding) (width : Nat) (n : Int) : String :=
  fill padding width (if n < 0 then "-" else "") (toString n.natAbs)

/-- A year in four places, or with its sign in five. -/
def yearPlaces (padding : Padding) (year : Int) : String :=
  if 0 ≤ year ∧ year ≤ 9999 then fill padding 4 "" (toString year.natAbs)
  else fill padding 5 (if year < 0 then "-" else "+") (toString year.natAbs)

def Quantity.write (o : Occasion) (padding : Padding) : Quantity → String
  | year => yearPlaces padding o.date.year
  | century => twoPlaces padding ((o.date.year / 100) % 256).toNat
  | yearOfCentury => twoPlaces padding (o.date.year % 100).toNat
  | weekYear => yearPlaces padding o.date.week.1
  | weekYearOfCentury => twoPlaces padding (o.date.week.1 % 100).toNat
  | quarter => toString ((o.date.month + 2) / 3)
  | month => twoPlaces padding o.date.month
  | day => twoPlaces padding o.date.day
  | ordinal => places padding 3 o.date.ordinal
  | weekFromSunday => twoPlaces padding o.date.weekFromSunday
  | weekFromMonday => twoPlaces padding o.date.weekFromMonday
  | week => twoPlaces padding o.date.week.2
  | weekday => toString o.date.weekday
  | weekdayFromMonday => toString (o.date.daysSinceMonday + 1)
  | hour => twoPlaces padding o.reading.hour
  | hour12 => twoPlaces padding o.reading.hour12
  | minute => twoPlaces padding o.reading.minute
  | second => twoPlaces padding o.reading.writtenSecond
  | nanosecond => places padding 9 o.reading.fraction
  | timestamp => places padding 9 (o.reading.clockSeconds - o.offset)

def signText (offset : Int) : String := if offset < 0 then "-" else "+"

def Part.write (o : Occasion) : Part → String
  | text c => String.singleton c
  | number quantity padding => quantity.write o padding
  | dayName short => nameText short dayNames[o.date.weekday]?
  | monthName short => nameText short monthNames[o.date.month - 1]?
  | halfDay upper =>
    if o.reading.hour < 12 then (if upper then "AM" else "am")
    else if upper then "PM" else "pm"
  | fraction => fractionText o.reading.fraction
  | fractionDigits point digits =>
    (if point then "." else "") ++ padded digits (o.reading.fraction / Nat.pow 10 (9 - digits))
  | zone => o.zone
  | offset between => offsetText between o.offset
  | offsetSeconds =>
    let n := o.offset.natAbs
    signText o.offset ++ padded 2 (n / 3600) ++ ":" ++ padded 2 (n / 60 % 60) ++ ":"
      ++ padded 2 (n % 60)
  | offsetHours => signText o.offset ++ padded 2 (o.offset.natAbs / 3600)
  | all => o.reading.timestamp o.offset

def zeros (q : Quantity) : List Part := [.number q .zero]

/-- Parts with a character between each two. -/
def separated (c : Char) : List (List Part) → List Part
  | [] => []
  | [ps] => ps
  | ps :: rest => ps ++ .text c :: separated c rest

def clockTime : List Part := separated ':' [zeros .hour, zeros .minute, zeros .second]

/-- The parts that a directive of one letter stands for. -/
def directive : Char → Option (List Part)
  | 'A' => some [.dayName false]
  | 'a' => some [.dayName true]
  | 'B' => some [.monthName false]
  | 'b' | 'h' => some [.monthName true]
  | 'C' => some (zeros .century)
  | 'c' => some (separated ' '
      [[.dayName true], [.monthName true], [.number .day .space], clockTime, zeros .year])
  | 'D' | 'x' => some (separated '/' [zeros .month, zeros .day, zeros .yearOfCentury])
  | 'd' => some (zeros .day)
  | 'e' => some [.number .day .space]
  | 'F' => some (separated '-' [zeros .year, zeros .month, zeros .day])
  | 'f' => some (zeros .nanosecond)
  | 'G' => some (zeros .weekYear)
  | 'g' => some (zeros .weekYearOfCentury)
  | 'H' => some (zeros .hour)
  | 'I' => some (zeros .hour12)
  | 'j' => some (zeros .ordinal)
  | 'k' => some [.number .hour .space]
  | 'l' => some [.number .hour12 .space]
  | 'M' => some (zeros .minute)
  | 'm' => some (zeros .month)
  | 'n' => some [.text '\n']
  | 'P' => some [.halfDay false]
  | 'p' => some [.halfDay true]
  | 'q' => some [.number .quarter .none]
  | 'R' => some (separated ':' [zeros .hour, zeros .minute])
  | 'r' => some (separated ' ' [separated ':' [zeros .hour12, zeros .minute, zeros .second],
      [.halfDay true]])
  | 'S' => some (zeros .second)
  | 's' => some [.number .timestamp .none]
  | 'T' | 'X' => some clockTime
  | 't' => some [.text '\t']
  | 'U' => some (zeros .weekFromSunday)
  | 'u' => some [.number .weekdayFromMonday .none]
  | 'V' => some (zeros .week)
  | 'v' => some (separated '-' [[.number .day .space], [.monthName true], zeros .year])
  | 'W' => some (zeros .weekFromMonday)
  | 'w' => some [.number .weekday .none]
  | 'Y' => some (zeros .year)
  | 'y' => some (zeros .yearOfCentury)
  | 'Z' => some [.zone]
  | 'z' => some [.offset ""]
  | '+' => some [.all]
  | '%' => some [.text '%']
  | _ => none

/-- A directive with a padding of its own, which only a single number may have. -/
def repadded (padding : Padding) (c : Char) : Option (List Part) :=
  match directive c with
  | some [.number q _] => some [.number q padding]
  | _ => none

/-- The parts of a layout, if all its directives exist. -/
def parse? : List Char → Option (List Part)
  | [] => some []
  | '%' :: '-' :: c :: rest => (repadded .none c).bind fun ps => (parse? rest).map (ps ++ ·)
  | '%' :: '0' :: c :: rest => (repadded .zero c).bind fun ps => (parse? rest).map (ps ++ ·)
  | '%' :: '_' :: c :: rest => (repadded .space c).bind fun ps => (parse? rest).map (ps ++ ·)
  | '%' :: ':' :: ':' :: ':' :: 'z' :: rest => (parse? rest).map (.offsetHours :: ·)
  | '%' :: ':' :: ':' :: 'z' :: rest => (parse? rest).map (.offsetSeconds :: ·)
  | '%' :: ':' :: 'z' :: rest => (parse? rest).map (.offset ":" :: ·)
  | '%' :: '.' :: 'f' :: rest => (parse? rest).map (.fraction :: ·)
  | '%' :: '.' :: '3' :: 'f' :: rest => (parse? rest).map (.fractionDigits true 3 :: ·)
  | '%' :: '.' :: '6' :: 'f' :: rest => (parse? rest).map (.fractionDigits true 6 :: ·)
  | '%' :: '.' :: '9' :: 'f' :: rest => (parse? rest).map (.fractionDigits true 9 :: ·)
  | '%' :: '3' :: 'f' :: rest => (parse? rest).map (.fractionDigits false 3 :: ·)
  | '%' :: '6' :: 'f' :: rest => (parse? rest).map (.fractionDigits false 6 :: ·)
  | '%' :: '9' :: 'f' :: rest => (parse? rest).map (.fractionDigits false 9 :: ·)
  | '%' :: c :: rest => (directive c).bind fun ps => (parse? rest).map (ps ++ ·)
  | ['%'] => none
  | c :: rest => (parse? rest).map (.text c :: ·)

/-- A date in the given layout; nothing if the layout is faulty. -/
def write (o : Occasion) (layout : String) : String :=
  match parse? layout.toList with
  | some parts => String.join (parts.map (Part.write o))
  | none => ""

end Layout

end Newswire.Calendar
