import Newswire.Decimal
import Newswire.Text.Blank

/-!
# Scanning texts

A scan takes something off the front of a text, or fails. Scans are put together one after the
other; where a scan is tried, a failure takes nothing off.
-/

namespace Newswire

abbrev Scan := StateT (List Char) Option

namespace Scan

variable {α : Type}

/-- A character that passes the test. -/
def char (p : Char → Bool) : Scan Char
  | c :: rest => if p c then some (c, rest) else none
  | [] => none

def exactly (c : Char) : Scan Unit := discard (char (· == c))

/-- The characters of a word in their order. -/
def word (w : List Char) : Scan Unit := fun cs =>
  (w.isPrefixOf? cs).map fun rest => ((), rest)

def blanks : Scan Unit := modify Text.trimStart

/-- At least one blank, and all that follow it. -/
def gap : Scan Unit := do
  discard (char Text.isBlank)
  blanks

def atEnd : Scan Unit
  | [] => some ((), [])
  | _ :: _ => none

/-- What the scan takes off, or nothing where it fails. -/
def tried (s : Scan α) : Scan (Option α) := fun cs =>
  match s cs with
  | some (a, rest) => some (some a, rest)
  | none => some (none, cs)

/-- The first of two scans that does not fail. -/
def either (s t : Scan α) : Scan α := fun cs => (s cs).or (t cs)

/-- The characters at the front that pass the test. -/
def span (p : Char → Bool) : Scan (List Char) := fun cs => some (cs.takeWhile p, cs.dropWhile p)

/-- Digits, at least `least` of them, and no more than `most` are taken. -/
def digits (least most : Nat) : Scan (List Char) := fun cs =>
  let ds := (cs.take most).takeWhile Char.isDigit
  if least ≤ ds.length then some (ds, cs.drop ds.length) else none

/-- All the digits that come, at least `least` of them. -/
def allDigits (least : Nat) : Scan (List Char) := fun cs =>
  let ds := cs.takeWhile Char.isDigit
  if least ≤ ds.length then some (ds, cs.dropWhile Char.isDigit) else none

def number (least most : Nat) : Scan Nat := Decimal.ofDigits <$> digits least most

/-- A number of two digits, and the character behind it. -/
def pairBefore (c : Char) : Scan Nat := do
  let n ← number 2 2
  exactly c
  return n

end Scan

end Newswire
