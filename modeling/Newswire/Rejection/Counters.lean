import Newswire.Rejection.Basic

/-!
# Counters of rejections

One counter for each feed and each connection of a feed, which counts the rejections since the last
clean run. Disabling is asked for once, by the rejection that brings a counter to the threshold.

A counter is found by its feed and its scope. To find it by a text would come to the same, with an
empty text for the scope of the feed: connections with a blank identifier are refused before a
counter is looked for, so that no connection shares the text of the feed.
-/

namespace Newswire

structure Counter where
  feed : String
  scope : Scope
  attempts : Nat
  /-- When it was made, in whole milliseconds. -/
  created : Int
  /-- When it was changed last, in whole milliseconds. -/
  updated : Int
  deriving Repr, DecidableEq

/-- The counters of all feeds. -/
structure Counters where
  rows : List Counter := []
  deriving Repr, DecidableEq, Inhabited

namespace Counters

def isFor (feed : String) (scope : Scope) (c : Counter) : Bool :=
  c.feed == feed && c.scope == scope

def get? (cs : Counters) (feed : String) (scope : Scope) : Option Counter :=
  cs.rows.find? (isFor feed scope)

/-- The count of a scope, which is zero as long as there is no counter. -/
def attempts (cs : Counters) (feed : String) (scope : Scope) : Nat :=
  ((cs.get? feed scope).map Counter.attempts).getD 0

/-- Adds one to a counter, or creates it, and gives the new count. -/
def increment (cs : Counters) (feed : String) (scope : Scope) (now : Int) : Nat × Counters :=
  let n := cs.attempts feed scope + 1
  match cs.get? feed scope with
  | some _ =>
    (n, ⟨cs.rows.map fun c =>
      if isFor feed scope c then { c with attempts := n, updated := now } else c⟩)
  | none => (n, ⟨cs.rows ++ [⟨feed, scope, n, now, now⟩]⟩)

/-- A counter of the feed that is not at zero. -/
def isRunning (feed : String) (c : Counter) : Bool := c.feed == feed && 0 < c.attempts

/-- Sets the counters of a feed back to zero and gives the number of those that were not there
yet. -/
def reset (cs : Counters) (feed : String) (now : Int) : Nat × Counters :=
  ((cs.rows.filter (isRunning feed)).length,
   ⟨cs.rows.map fun c => if isRunning feed c then { c with attempts := 0, updated := now } else c⟩)

/-- Removes the counters of a feed and gives their number. -/
def delete (cs : Counters) (feed : String) : Nat × Counters :=
  ((cs.rows.filter (·.feed == feed)).length, ⟨cs.rows.filter (·.feed != feed)⟩)

end Counters

/-- The count at which disabling is asked for; it is never zero. -/
def effectiveThreshold (threshold : Nat) : Nat := max threshold 1

/-- The request that a rejection leads to when it brings the counter to `attempts`. -/
def disableRequest? (threshold : Nat) (feed : String) (scope : Scope) (r : Rejection)
    (attempts : Nat) : Option DisableRequest :=
  if attempts = effectiveThreshold threshold then some ⟨feed, scope, r.reason⟩ else none

end Newswire
