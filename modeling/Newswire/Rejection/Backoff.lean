import Newswire.Store.Action

/-!
# Backing off

A rejection is counted; the one that brings the counter to the threshold leads to a request to
disable what was rejected. A clean run sets the counters of the feed back.
-/

namespace Newswire.Backoff

/-- Counts a rejection. -/
def register (threshold : Nat) (feed : String) (scope : Scope) (r : Rejection) (now : Instant) :
    Store.Action (Option DisableRequest) := do
  let attempts ← Store.incrementCounter feed scope now
  return disableRequest? threshold feed scope r attempts

/-- Sets the counters of a feed back to zero. -/
def succeed (feed : String) (now : Instant) : Store.Action Unit := do
  let _ ← Store.resetCounters feed now

/-- The count of a scope. -/
def attempts (feed : String) (scope : Scope) : Store.Action Nat := do
  let counter ← Store.getCounter feed scope
  return (counter.map Counter.attempts).getD 0

end Newswire.Backoff
