import Newswire.Event.Input
import Newswire.Fingerprint.Selection
import Newswire.Run.Basic
import Newswire.Run.Fate
import Newswire.Settings

/-!
# Delivering the articles of a feed

A delivering run chooses among the articles, takes those chosen to every connection, and at the end
stores their fingerprints. A run that breaks off stores none, so it can be repeated: the records
then keep it from sending what was already recorded.
-/

namespace Newswire.Run

/-- Counts the rejection of a connection. -/
def rejectConnection (s : Setup) (feed connection : String) (r : Rejection) :
    Run (Option DisableRequest) :=
  store "retry increment"
    (Backoff.register s.settings.threshold feed (.connection connection) r s.now)

/-- Records how an errand ended, and counts the rejection if it was one. -/
def conclude (s : Setup) (r : Refresh) (e : Errand) (outcome : Delivery.Outcome)
    (rejection : Option Rejection) : Run Fate := do
  let isRecorded ← store "delivery record insert"
    (Store.insertAttempt ⟨r.id, r.feed.id, e.connection.id, e.identity, outcome, s.now.millis⟩)
  match rejection with
  | none => return .ended { outcome, isRecorded }
  | some x =>
    let disable ← rejectConnection s r.feed.id e.connection.id x
    return .ended { outcome, isRecorded, rejection, disable }

/-- Sends messages until one is not taken, and gives what came of it. -/
def sendAll (c : Connection) : List Message.Payload → Plan (Delivery.Outcome × Option Rejection)
  | [] => pure (.sent, none)
  | p :: rest =>
    .send ⟨c.id, c.target, p⟩ fun answer =>
      if answer.outcome = .sent then sendAll c rest
      else pure (answer.outcome, answer.rejection?)

/-- The limits on an errand. -/
def limits (s : Setup) (r : Refresh) (e : Errand) : Quota.Limits :=
  ⟨r.feed.dailyLimit.getD s.settings.dailyLimit, e.connection.limits⟩

/-- Makes messages of the fields and sends them, for a delivery that has been allowed. It is given
back when there is nothing to send. -/
def dispatch (s : Setup) (r : Refresh) (e : Errand) (reservation : Nat) (fields : Fields) :
    Run Fate := do
  match Message.compose s.settings.maxLength e.connection.options e.connection.outline fields with
  | .error failure =>
    store "rate limit release" (Store.release reservation)
    conclude s r e (.failed .articleProcessing failure.message) none
  | .ok payloads =>
    let (outcome, rejection) ← sendAll e.connection payloads
    conclude s r e outcome rejection

/-- Runs an errand of which there is no record yet. -/
def attempt (s : Setup) (r : Refresh) (e : Errand) : Run Fate := do
  match e.prospect with
  | .settled outcome => conclude s r e outcome none
  | .toSend fields =>
    match ← store "rate limit reservation"
        (Store.reserve r.feed.id e.connection.id (limits s r e) s.now) with
    | .allowed reservation => dispatch s r e reservation fields
    | .dayExceeded | .limitExceeded _ => return .withheld

/-- Runs errands in their order. Nothing more goes to a connection that has been rejected. -/
def attemptAll (s : Setup) (r : Refresh) (recorded : List (String × String))
    (rejected : List String) : List Errand → Run (List (Errand × Fate))
  | [] => pure []
  | e :: rest => do
    let fate ←
      if rejected.contains e.connection.id then pure .suppressed
      else if recorded.contains e.key then pure .skipped
      else attempt s r e
    let rejected := if fate.isRejection then e.connection.id :: rejected else rejected
    let fates ← attemptAll s r recorded rejected rest
    return (e, fate) :: fates

/-- The greatest age that can be asked for, in seconds. -/
def maxAge : Nat := 0xFFFFFFFF

def options (s : Setup) (f : Feed) : Selection.Options where
  passing := f.passing
  blocking := f.blocking
  maxAge := f.maxAge.map fun seconds => (min seconds maxAge : Nat)
  dateFields := f.dateFields
  skipInitial := s.settings.skipInitial

/-- Chooses, delivers, stores the fingerprints, and after a clean run sets the counters back. -/
def deliver (s : Setup) (r : Refresh) : Run Report := do
  let selection ← store "fingerprint selection"
    (Selection.choose ⟨s.settings.digests⟩ r.feed.id r.articles (options s r.feed) s.now)
  let lanes := if selection.deliver.isEmpty then [] else r.connections.map Lane.ofConnection
  let fates ←
    if selection.deliver.isEmpty then pure []
    else
      let recorded ← store "delivery record lookup" (Store.recordsOfEvent r.id)
      attemptAll s r recorded [] (Errand.all selection.deliver lanes)
  let _ ← store "fingerprint commit" (Selection.commit selection.pending)
  if !fates.any (·.2.isRejection) then
    store "retry reset" (Backoff.succeed r.feed.id s.now)
  return .ofFates r.feed.id selection.deliver.length lanes fates

/-- Does something while holding the lease of a feed, if it is free. The lease is given back
whatever happens, and it does not matter whether that succeeds. -/
def underLease {α : Type} (s : Setup) (feed : String) (act : Run α) : Run α := do
  if ← store "lease acquire" (Store.acquireLease feed s.holder s.asked s.settings.leaseSeconds) then
    .mk do
      let result ← act.run
      let _ ← (store "lease release" (Store.releaseLease feed s.holder)).run
      return result
  else throw (.feedBusy feed)

end Newswire.Run
