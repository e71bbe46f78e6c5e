import Newswire.Pattern.Node

/-!
# The extent of a compiled pattern

Counted repetitions are written out when a pattern is compiled, so a short pattern may become very
long. Its extent is the storage that it takes, in bytes. What that is depends on how states are laid
out and shared, so it is left to a measure. The measure that patterns are compiled by here is an
estimate, which is made before there are any states: it comes close for counted repetitions of
single characters, and may be far off for large sets.
-/

namespace Newswire.Pattern

/-- The storage of one state, about. -/
def stateExtent : Nat := 32

/-- The storage of a state with two ways on, about. -/
def forkExtent : Nat := stateExtent + 8

/-- An estimate for a set. One within ASCII is one state with a transition for each range. Beyond
ASCII the bytes of the characters are told apart one after another: a transition for each range, and
a state for each run of sixty-four code points in which a range ends. -/
def setExtent (s : CharSet) : Nat :=
  match s.ranges.toList with
  | [(a, b)] =>
    if b < 0x80 then stateExtent
    else if a = b then stateExtent * (if a < 0x800 then 2 else if a < 0x10000 then 3 else 4)
    else 10 * (stateExtent + 8)
  | rs =>
    if s.isAscii then 2 * stateExtent + 8 * rs.length
    else
      let blocks := rs.foldl (fun bs r =>
        let bs := if bs.head? = some (r.1 / 64) then bs else r.1 / 64 :: bs
        if bs.head? = some (r.2 / 64) then bs else r.2 / 64 :: bs) ([] : List Nat)
      2 * stateExtent + 8 * rs.length + 24 * blocks.length

/-- An estimate for a pattern, from estimates for its parts. -/
def Node.extent : Node → Nat
  | empty => stateExtent
  | set s => setExtent s
  | place _ => stateExtent
  | repetition min none _ body =>
    if min = 0 then
      extent body + (if body.mayBeEmpty then 2 * forkExtent + stateExtent else forkExtent)
    else min * extent body + forkExtent
  | repetition min (some max) _ body =>
    if min = max then max * extent body
    else max * extent body + (max - min) * forkExtent + stateExtent
  | capture _ body => extent body + 2 * stateExtent
  | sequence first second => extent first + extent second
  | either first second => extent first + extent second + forkExtent

/-- The storage of the states around every pattern, about. -/
def frameExtent : Nat := 6 * stateExtent

/-- How the storage of a pattern is reckoned. -/
class Measure where
  extent : Node → Nat

instance estimate : Measure := ⟨fun node => node.extent + frameExtent⟩

theorem extent_estimate (node : Node) : Measure.extent node = node.extent + frameExtent := rfl

end Newswire.Pattern
