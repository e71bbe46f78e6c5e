import Newswire.Run.Delivering

/-!
# Handling events
-/

namespace Newswire.Run

/-- Removes everything that is remembered about a feed. -/
def forget (feed : String) : Run Unit := do
  let _ ← store "fingerprint purge" (Store.deleteFingerprints feed)
  let _ ← store "retry purge" (Store.deleteCounters feed)
  let _ ← store "delivery record purge" (Store.deleteRecords feed)
  let _ ← store "rate limit purge" (Store.purgeReservations feed)
  let _ ← store "lease purge" (Store.deleteLease feed)

/-- Counts a rejection that comes from elsewhere. -/
def takeRebuff (s : Setup) (r : Rebuff) : Run Report := do
  let request ← registerCode s.settings.threshold r.feed (.ofConnection? r.connection) r.code s.now
  return { events := request.toList.map .disable }

def handle (s : Setup) : Event.Input → Run Report
  | .deliver r => underLease s r.feed.id (deliver s r)
  | .feedDeleted feed => do
    forget feed
    return {}
  | .feedRejected r => takeRebuff s r

/-- The longest time for which reservations can be kept, in milliseconds. -/
def longestKeep : Nat := 0x7FFFFFFFFFFFFFFF

/-- How long reservations are kept when `seconds` are asked for, in milliseconds. What is too long
to be told counts as a day. -/
def keep (seconds : Nat) : Nat :=
  if seconds * 1000 ≤ longestKeep then seconds * 1000 else RateLimit.daySeconds * 1000

/-- Removes the reservations that were made more than `seconds` ago and gives their number. There is
no answer where the moment before which they were made cannot be told. -/
def prune (now : Instant) (seconds : Nat) : Run (Option Nat) :=
  let before := now.ago (keep seconds)
  if before < RateLimit.firstMoment then pure none
  else some <$> store "rate limit prune" (Store.pruneReservations before)

end Newswire.Run
