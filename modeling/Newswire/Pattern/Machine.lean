import Newswire.Pattern.Node

/-!
# Matching

A pattern becomes a program whose threads read the text together, one character at a time. Threads
are kept in order of preference: of two that reach the same instruction at the same place the first
one goes on, and once a thread has found a match those after it are dropped. So the match found is
the leftmost one and, among those that start there, the one preferred by the pattern.
-/

namespace Newswire.Pattern

inductive Instruction where
  | read (s : CharSet) (next : Nat)
  | check (p : Place) (next : Nat)
  | fork (first second : Nat)
  | save (slot : Nat) (next : Nat)
  | accept
  deriving Repr, Inhabited

abbrev Program := Array Instruction

/-- Adds an instruction and answers its address. -/
def emit (i : Instruction) : StateM Program Nat :=
  modifyGet fun p => (p.size, p.push i)

def fork (greedy : Bool) (body after : Nat) : Instruction :=
  if greedy then .fork body after else .fork after body

/-- Adds `n` copies of a part in front of `next`. -/
def copies (part : Nat → StateM Program Nat) : Nat → Nat → StateM Program Nat
  | 0, next => pure next
  | n + 1, next => do copies part n (← part next)

/-- Adds `n` copies in front of `next`, each of which may be left out together with those after. -/
def options (part : Nat → StateM Program Nat) (greedy : Bool) (after : Nat) :
    Nat → Nat → StateM Program Nat
  | 0, next => pure next
  | n + 1, next => do
    let start ← part next
    options part greedy after n (← emit (fork greedy start after))

/-- Adds a loop in front of `next` and answers the address of its fork and of its body. -/
def loop (part : Nat → StateM Program Nat) (greedy : Bool) (next : Nat) :
    StateM Program (Nat × Nat) := do
  let hub ← emit .accept
  let start ← part hub
  modify fun p => p.setIfInBounds hub (fork greedy start next)
  return (hub, start)

/-- Adds the instructions of a node in front of `next` and answers where they start. -/
def Node.compile : Node → Nat → StateM Program Nat
  | empty, next => pure next
  | set s, next => emit (.read s next)
  | place p, next => emit (.check p next)
  | capture index body, next => do
    let stop ← emit (.save (2 * index + 1) next)
    let start ← body.compile stop
    emit (.save (2 * index) start)
  | sequence first second, next => do first.compile (← second.compile next)
  | either first second, next => do
    let a ← first.compile next
    let b ← second.compile next
    emit (.fork a b)
  | repetition 0 none greedy body, next => do
    let (hub, start) ← loop body.compile greedy next
    if body.mayBeEmpty then emit (fork greedy start next) else return hub
  | repetition (min + 1) none greedy body, next => do
    let (_, start) ← loop body.compile greedy next
    copies body.compile min start
  | repetition min (some max) greedy body, next => do
    copies body.compile min (← options body.compile greedy next (max - min) next)

/-- The program of a whole pattern and where it starts; slots 0 and 1 hold the ends of the match. -/
def Node.program (n : Node) : Program × Nat :=
  let go : StateM Program Nat := do
    let accept ← emit .accept
    (Node.capture 0 n).compile accept
  let (start, p) := go.run #[]
  (p, start)

def isNewline (c : Option Char) : Bool := c == some '\n'

def isReturn (c : Option Char) : Bool := c == some '\r'

/-- The condition holds between the two characters; `none` is an end of the text. -/
def Place.holds (before after : Option Char) : Place → Bool
  | textStart => before.isNone
  | textEnd => after.isNone
  | lineStart false => before.isNone || isNewline before
  | lineEnd false => after.isNone || isNewline after
  | lineStart true => before.isNone || isNewline before || (isReturn before && !isNewline after)
  | lineEnd true => after.isNone || isReturn after || (isNewline after && !isReturn before)
  | word edge ascii =>
    let isWord (c : Option Char) := c.any (if ascii then asciiWordChars else wordChars).mem
    match edge with
    | .either => isWord before != isWord after
    | .none => isWord before == isWord after
    | .start => !isWord before && isWord after
    | .stop => isWord before && !isWord after
    | .startHalf => !isWord before
    | .stopHalf => !isWord after

/-- The places saved by a thread, by slot. -/
abbrev Slots := Array (Option Nat)

structure Thread where
  address : Nat
  slots : Slots

/-- Threads waiting at one place of the text, the preferred one first in the array, and the
addresses that have been visited there. -/
structure Crowd where
  waiting : Array Thread := #[]
  visited : Array Bool

/-- Follows the threads on the stack to the instructions at which they have to wait. Every address
is entered once and puts at most two on the stack, so twice the size of the program is enough. -/
def settle (p : Program) (text : Array Char) (i : Nat) : Nat → List Thread → Crowd → Crowd
  | 0, _, crowd => crowd
  | _, [], crowd => crowd
  | fuel + 1, t :: stack, crowd =>
    if crowd.visited.getD t.address true then settle p text i fuel stack crowd
    else
      let crowd := { crowd with visited := crowd.visited.setIfInBounds t.address true }
      match p[t.address]? with
      | none => settle p text i fuel stack crowd
      | some (.fork a b) =>
        settle p text i fuel ({ t with address := a } :: { t with address := b } :: stack) crowd
      | some (.save slot next) =>
        settle p text i fuel (⟨next, t.slots.setIfInBounds slot (some i)⟩ :: stack) crowd
      | some (.check place next) =>
        if place.holds (if i = 0 then none else text[i - 1]?) text[i]? then
          settle p text i fuel ({ t with address := next } :: stack) crowd
        else settle p text i fuel stack crowd
      | some _ => settle p text i fuel stack { crowd with waiting := crowd.waiting.push t }

def enter (p : Program) (text : Array Char) (i : Nat) (t : Thread) (crowd : Crowd) : Crowd :=
  settle p text i (2 * p.size + 2) [t] crowd

def Crowd.fresh (p : Program) : Crowd := { visited := Array.replicate p.size false }

/-- Lets the threads at place `i` read the next character, in order, until one of them accepts. -/
def advance (p : Program) (text : Array Char) (i : Nat) :
    List Thread → Crowd → Crowd × Option Slots
  | [], next => (next, none)
  | t :: rest, next =>
    match p[t.address]? with
    | some .accept => (next, some t.slots)
    | some (.read s target) =>
      if text[i]?.any s.mem then
        advance p text i rest (enter p text (i + 1) ⟨target, t.slots⟩ next)
      else advance p text i rest next
    | _ => advance p text i rest next

/-- Goes on from place `i` with the given threads for at most `steps` characters. -/
def search (p : Program) (start slots : Nat) (text : Array Char) :
    Nat → Nat → Crowd → Option Slots → Option Slots
  | 0, _, _, found => found
  | steps + 1, i, crowd, found =>
    let crowd :=
      if found.isNone then enter p text i ⟨start, Array.replicate slots none⟩ crowd else crowd
    if crowd.waiting.isEmpty ∧ found.isSome then found
    else
      let (next, hit) := advance p text i crowd.waiting.toList (.fresh p)
      search p start slots text steps (i + 1) next (hit.or found)

end Newswire.Pattern
