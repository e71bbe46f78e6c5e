import Newswire.Pattern.Extent
import Newswire.Pattern.Machine

/-!
# Patterns

A pattern is compiled from its text under flags and a bound on its extent. A compiled pattern finds
its matches in a text: the first one, or all of them from left to right without overlap.
-/

namespace Newswire

/-- A compiled pattern. -/
structure Pattern where
  program : Pattern.Program
  start : Nat
  captures : Nat
  names : List (String × Nat)
  deriving Inhabited

namespace Pattern

/-- Why a text is not compiled. -/
inductive Refusal where
  | malformed
  | tooLarge (limit : Nat)
  deriving Repr, DecidableEq

def Refusal.message : Refusal → String
  | malformed => "regex parse error:"
  | tooLarge limit => "Compiled regex exceeds size limit of " ++ toString limit ++ " bytes."

/-- The bound for patterns that are going to be run. -/
def runLimit : Nat := 0x100000

/-- The bound for patterns that are only checked. -/
def checkLimit : Nat := 10 * 0x100000

/-- Reads a text and applies flags to it, within a bound on the extent. -/
def interpret [Measure] (limit : Nat) (flags : Flags) (text : String) :
    Except Refusal (Written × Node) :=
  match read? text with
  | none => .error .malformed
  | some written =>
    match meaning flags written.body with
    | none => .error .malformed
    | some (node, _) =>
      if Measure.extent node > limit then .error (.tooLarge limit) else .ok (written, node)

def compile [Measure] (limit : Nat) (flags : Flags) (text : String) : Except Refusal Pattern := do
  let (written, node) ← interpret limit flags text
  let (program, start) := node.program
  return ⟨program, start, written.captures, written.names⟩

/-- A match: where it starts and ends, and the same for each group that took part. -/
structure Match where
  slots : Slots

def Match.bound (m : Match) (slot : Nat) : Option Nat := (m.slots[slot]?).join

def Match.start (m : Match) : Nat := (m.bound 0).getD 0

def Match.stop (m : Match) : Nat := (m.bound 1).getD 0

/-- The text of a group; empty if the group took no part. -/
def Match.group (m : Match) (text : Array Char) (index : Nat) : List Char :=
  match m.bound (2 * index), m.bound (2 * index + 1) with
  | some a, some b => (text.extract a b).toList
  | _, _ => []

/-- The first match that starts at place `i` or later. -/
def findFrom (p : Pattern) (text : Array Char) (i : Nat) : Option Match :=
  if i > text.size then none
  else
    (search p.program p.start (2 * (p.captures + 1)) text (text.size + 1 - i) i
      (.fresh p.program) none).map Match.mk

def isMatch (p : Pattern) (text : String) : Bool := (p.findFrom text.toList.toArray 0).isSome

/-- The matches from place `i` on, at most `count` of them. An empty match right behind the one
before it is passed over. -/
def matchesFrom (p : Pattern) (text : Array Char) : Nat → Nat → Option Nat → List Match
  | 0, _, _ => []
  | count + 1, i, last =>
    let found :=
      match p.findFrom text i with
      | none => none
      | some m =>
        if m.start = m.stop ∧ some m.stop = last then p.findFrom text (i + 1) else some m
    match found with
    | none => []
    | some m => m :: matchesFrom p text count m.stop (some m.stop)

/-- All matches, or only the first. There is at most one for each place of the text. -/
def findAll (p : Pattern) (everywhere : Bool) (text : Array Char) : List Match :=
  p.matchesFrom text (if everywhere then text.size + 1 else 1) 0 none

/-- Puts `fill m` in the place of each match `m`. -/
def replace (p : Pattern) (everywhere : Bool) (fill : Match → List Char) (text : Array Char) :
    List Char :=
  go 0 (p.findAll everywhere text)
where
  go (i : Nat) : List Match → List Char
    | [] => (text.extract i text.size).toList
    | m :: rest => (text.extract i m.start).toList ++ fill m ++ go m.stop rest

end Pattern

end Newswire
