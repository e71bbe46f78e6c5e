import Newswire.Calendar.Moment
import Newswire.Text.Scan

/-!
# Reading dates

Feeds write dates in three ways: as in `2024-03-01T12:00:00.5+01:00`, as in
`Fri, 01 Mar 2024 12:00:00 GMT`, and as in `2024-03-01 12:00:00`, which is universal time. A text is
a date when it fits one of them from its first character to its last.
-/

namespace Newswire.Calendar

namespace Moment.Reader

open Scan

/-- The position of the word among the names that the text starts with, whatever the case. -/
def oneOf (names : List String) : Scan Nat := fun cs =>
  (names.findIdx? fun name => name.toList.isPrefixOf (cs.map Char.toLower)).bind fun i =>
    names[i]?.map fun name => (i, cs.drop name.length)

def monthNames : List String :=
  ["jan", "feb", "mar", "apr", "may", "jun", "jul", "aug", "sep", "oct", "nov", "dec"]

def dayNames : List String := ["sun", "mon", "tue", "wed", "thu", "fri", "sat"]

/-- The sign of an offset. -/
def sign (minus : Char → Bool) : Scan Int := do
  let c ← char fun c => c == '+' || minus c
  return if c == '+' then 1 else -1

/-- Hours and minutes, with `between` in the middle, as seconds. -/
def offsetAfterSign (between : Scan Unit) : Scan Nat := do
  let hours ← number 2 2
  between
  let minutes ← number 2 2
  guard (minutes < 60)
  return hours * 3600 + minutes * 60

/-- An offset of less than a day. -/
def offset (minus : Char → Bool) (between : Scan Unit) : Scan Int := do
  let s ← sign minus
  let n ← offsetAfterSign between
  guard (n < 86400)
  return s * n

/-- Nanoseconds from the digits of a fraction of a second; digits behind the ninth do not count. -/
def fraction : Scan Nat := do
  let ds ← allDigits 1
  let ds := ds.take 9
  return Decimal.ofDigits ds * Nat.pow 10 (9 - ds.length)

/-- The character between date and time. -/
def isTimeMark (c : Char) : Bool := c == 'T' || c == 't' || c == ' '

def isMinus (c : Char) : Bool := c == '-' || c == '−'

/-- A date such as `2024-03-01T12:00:00.5+01:00`. -/
def stampedDate : Scan (Option Moment) := do
  let year ← number 4 4
  exactly '-'
  let month ← pairBefore '-'
  let day ← number 2 2
  discard (char isTimeMark)
  let hour ← pairBefore ':'
  let minute ← pairBefore ':'
  let second ← number 2 2
  let nanos ← tried (do exactly '.'; fraction)
  guard (nanos.isSome || (← get).head? != some '.')
  let universal ← tried (char fun c => c == 'Z' || c == 'z')
  let shift ← if universal.isSome then pure 0 else offset isMinus (exactly ':')
  atEnd
  return Moment.ofReading? ⟨⟨year, month, day⟩, hour, minute, second, nanos.getD 0⟩ shift

/-- A year of two or three digits is short for one of the last or of this century. -/
def fullYear (ds : List Char) : Nat :=
  let n := Decimal.ofDigits ds
  match ds.length with
  | 2 => if n < 50 then n + 2000 else n + 1900
  | 3 => n + 1900
  | _ => n

/-- Hours ahead of universal time, for the zones that have a name of letters. -/
def namedShift (name : String) : Option Int :=
  match name with
  | "gmt" | "ut" | "z" => some 0
  | "edt" => some (-4)
  | "est" | "cdt" => some (-5)
  | "cst" | "mdt" => some (-6)
  | "mst" | "pdt" => some (-7)
  | "pst" => some (-8)
  | _ => match name.toList with
    | [c] => if c != 'j' then some 0 else none
    | _ => none

def zone : Scan Int := fun cs =>
  let name := cs.takeWhile Char.isAlpha
  if name.isEmpty then offset (· == '-') (pure ()) cs
  else (namedShift (String.ofList (name.map Char.toLower))).map fun hours =>
    (hours * 3600, cs.drop name.length)

/-- The text behind a comment that has been entered, with `depth` parentheses open around it. -/
def commentEnd (depth : Nat) : List Char → Option (List Char)
  | [] => none
  | '\\' :: _ :: rest => commentEnd depth rest
  | '(' :: rest => commentEnd (depth + 1) rest
  | ')' :: rest => match depth with
    | 0 => some rest
    | d + 1 => commentEnd d rest
  | _ :: rest => commentEnd depth rest

def comment : Scan Unit := do
  blanks
  exactly '('
  fun cs => (commentEnd 0 cs).map fun rest => ((), rest)

/-- As many comments as come; none of them is empty, so the length of the text bounds their
number. -/
def comments : Scan Unit := fun cs => some ((), skip cs.length cs)
where
  skip : Nat → List Char → List Char
    | 0, cs => cs
    | n + 1, cs => match comment cs with
      | some (_, rest) => skip n rest
      | none => cs

/-- A date such as `Fri, 01 Mar 2024 12:00:00 GMT (noon)`. -/
def letterDate : Scan (Option Moment) := do
  blanks
  let weekday ← tried (oneOf dayNames)
  if weekday.isSome then exactly ','
  blanks
  let day ← number 1 2
  gap
  let month ← oneOf monthNames
  gap
  let year ← fullYear <$> allDigits 2
  gap
  let hour ← number 2 2
  blanks
  exactly ':'
  blanks
  let minute ← number 2 2
  let colon ← tried (do blanks; exactly ':')
  let second ← if colon.isSome then number 2 2 else pure 0
  gap
  let shift ← zone
  comments
  atEnd
  let date : Date := ⟨year, month + 1, day⟩
  guard (weekday.all (· == date.weekday))
  return Moment.ofReading? ⟨date, hour, minute, second, 0⟩ shift

/-- A year; only one with a sign may have more than four digits. -/
def signedYear : Scan Int := do
  blanks
  match ← tried (sign (· == '-')) with
  | some s => return s * Decimal.ofDigits (← allDigits 1)
  | none => return Decimal.ofDigits (← digits 1 4)

/-- One or two digits behind any blanks. -/
def part : Scan Nat := do
  blanks
  number 1 2

/-- A date such as `2024-03-01 12:00:00`. -/
def plainDate : Scan (Option Moment) := do
  let year ← signedYear
  exactly '-'
  let month ← part
  exactly '-'
  let day ← part
  blanks
  let hour ← part
  exactly ':'
  let minute ← part
  exactly ':'
  let second ← part
  atEnd
  return Moment.ofReading? ⟨⟨year, month, day⟩, hour, minute, second, 0⟩ 0

/-- The moment that a scan finds. -/
def found? (s : Scan (Option Moment)) (cs : List Char) : Option Moment := (s cs).bind Prod.fst

end Moment.Reader

open Moment.Reader in

/-- The moment that a text gives in one of the three ways; the first way that fits decides. -/
def Moment.read? (s : String) : Option Moment :=
  let cs := Text.trim s.toList
  ((found? stampedDate cs).or (found? letterDate cs)).or (found? plainDate cs)

end Newswire.Calendar
