import Newswire.Calendar.Zone.Basic
import Newswire.Calendar.Zone.RuleTable
import Newswire.Calendar.Zone.Table
import Newswire.Decimal

/-!
# Looking zones up

Zones are found by their own names and by their other names; the letters of a name are compared as
they stand. What the tables hold is read when it is needed.
-/

namespace Newswire.Calendar.Zone

/-- The parts of a text between occurrences of a character. -/
def cutAt (c : Char) : List Char → List (List Char)
  | [] => [[]]
  | d :: rest =>
    match cutAt c rest with
    | first :: more => if d = c then [] :: first :: more else (d :: first) :: more
    | [] => [[d]]

/-- Hours, minutes and seconds with colons between them, and a sign, as seconds. -/
def secondsOf (cs : List Char) : Int :=
  match cs with
  | '-' :: rest => -(amount rest : Nat)
  | _ => (amount cs : Nat)
where
  amount (cs : List Char) : Nat :=
    match (cutAt ':' cs).map Decimal.ofDigits with
    | [h] => h * 3600
    | [h, m] => h * 3600 + m * 60
    | h :: m :: s :: _ => h * 3600 + m * 60 + s
    | [] => 0

def weekdays : List String := ["Sun", "Mon", "Tue", "Wed", "Thu", "Fri", "Sat"]

def weekdayOf (cs : List Char) : Nat := weekdays.findIdx (·.toList == cs)

def dayOf (cs : List Char) : DayRule :=
  match cs with
  | ['l', 'a', 's', 't', '-', a, b, c] => .last (weekdayOf [a, b, c])
  | a :: b :: c :: '>' :: '=' :: n => .onOrAfter (weekdayOf [a, b, c]) (Decimal.ofDigits n)
  | a :: b :: c :: '<' :: '=' :: n => .onOrBefore (weekdayOf [a, b, c]) (Decimal.ofDigits n)
  | n => .day (Decimal.ofDigits n)

/-- A time of day and the clock that its last character names. -/
def timeOf (cs : List Char) : Int × Clock :=
  match cs.getLast? with
  | some 's' => (secondsOf cs.dropLast, .standard)
  | some 'u' => (secondsOf cs.dropLast, .universal)
  | _ => (secondsOf cs, .wall)

/-- Month, day and time, of which the last ones may be left out. -/
def annualOf : List (List Char) → Annual
  | [] => {}
  | [m] => { month := Decimal.ofDigits m }
  | [m, d] => { month := Decimal.ofDigits m, day := dayOf d }
  | m :: d :: t :: _ => ⟨Decimal.ofDigits m, dayOf d, (timeOf t).1, (timeOf t).2⟩

def wordsOf (line : String) : List (List Char) := cutAt ' ' line.toList

def ruleOf? (line : String) : Option SavingRule :=
  match wordsOf line with
  | [first, last, month, day, time, saving, letters] =>
    some
      { firstYear := Decimal.ofDigits first
        lastYear := if last = ['-'] then none else some (Decimal.ofDigits last)
        change := annualOf [month, day, time]
        saving := secondsOf saving
        letters := if letters = ['-'] then "" else String.ofList letters }
  | _ => none

/-- The rules of a name. -/
def rulesOf? (name : String) : Option (List SavingRule) :=
  (ruleTable.lookup name).map (·.filterMap ruleOf?)

def savingOf (cs : List Char) : Saving :=
  match rulesOf? (String.ofList cs) with
  | some rules => .byRules rules
  | none => if cs = ['-'] then .fixed 0 else .fixed (secondsOf cs)

def stretchOf? (line : String) : Option Stretch :=
  match wordsOf line with
  | offset :: saving :: form :: ending =>
    some
      { offset := secondsOf offset
        saving := savingOf saving
        form := String.ofList form
        ending := match ending with
          | [] => none
          | year :: time => some (Decimal.ofDigits year, annualOf time) }
  | _ => none

/-- The zone's own name for one of its names. -/
def properName (name : String) : String :=
  match aliasTable.find? fun entry => entry.2.contains name with
  | some entry => entry.1
  | none => name

/-- The zone of a name. -/
def find? (name : String) : Option Zone :=
  (zoneTable.lookup (properName name)).map (·.filterMap stretchOf?)

end Newswire.Calendar.Zone
