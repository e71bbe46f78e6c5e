import Newswire.Plan

/-!
# What is done with the stores

A plan that breaks off when a call fails. What was done before stays done.
-/

namespace Newswire.Store

abbrev Action := ExceptT Failure Plan

/-- Makes a call, which changes the stores unless something befalls it. -/
def call {α : Type} (kind : Kind) (effect : Stores → α × Stores) : Action α :=
  .mk (.call ⟨kind, effect⟩ fun answer => .done (answer.mapError .outage))

/-- Makes a call that changes nothing. -/
def ask {α : Type} (kind : Kind) (f : Stores → α) : Action α := call kind fun s => (f s, s)

def seenValues (feed field : String) (values : List String) : Action (List String) :=
  if values.isEmpty then pure [] else ask .seenValues (·.fingerprints.seen feed field values)

def hasField (feed field : String) : Action Bool :=
  ask .hasField (·.fingerprints.hasField feed field)

def insertFingerprints (new : List Fingerprint) : Action Nat :=
  call .insertFingerprints fun s =>
    let (n, fingerprints) := s.fingerprints.insertAll new
    (n, { s with fingerprints })

def deleteFingerprints (feed : String) : Action Nat :=
  call .deleteFingerprints fun s =>
    let (n, fingerprints) := s.fingerprints.delete feed
    (n, { s with fingerprints })

def insertRecord (r : Delivery.Record) : Action Bool :=
  call .insertRecord fun s =>
    let (added, records) := s.records.insert r
    (added, { s with records })

def insertAttempt (a : Delivery.Attempt) : Action Bool :=
  call .insertRecord fun s =>
    let (added, records) := s.records.insertNew a
    (added, { s with records })

def recordsOfEvent (event : String) : Action (List (String × String)) :=
  ask .recordsOfEvent (·.records.ofEvent event)

def recordsOfFeed (feed : String) (limit : Int) : Action (List Delivery.Record) :=
  ask .recordsOfFeed (·.records.latest feed limit)

def recordsOfArticle (article : String) : Action (List Delivery.Record) :=
  ask .recordsOfArticle (·.records.ofArticle article)

def countRecords (feed : String) (status : Delivery.Status) : Action Nat :=
  ask .countRecords (·.records.count feed status)

def deleteRecords (feed : String) : Action Nat :=
  call .deleteRecords fun s =>
    let (n, records) := s.records.delete feed
    (n, { s with records })

/-- Does something about a scope, but not about a connection with a blank identifier. -/
def withScope {α : Type} (scope : Scope) (act : Action α) : Action α :=
  if scope.isValid then act else throw .blankConnection

def incrementCounter (feed : String) (scope : Scope) (now : Instant) : Action Nat :=
  withScope scope <| call .incrementCounter fun s =>
    let (n, counters) := s.counters.increment feed scope now.millis
    (n, { s with counters })

def getCounter (feed : String) (scope : Scope) : Action (Option Counter) :=
  withScope scope <| ask .getCounter (·.counters.get? feed scope)

def resetCounters (feed : String) (now : Instant) : Action Nat :=
  call .resetCounters fun s =>
    let (n, counters) := s.counters.reset feed now.millis
    (n, { s with counters })

def deleteCounters (feed : String) : Action Nat :=
  call .deleteCounters fun s =>
    let (n, counters) := s.counters.delete feed
    (n, { s with counters })

def reserve (feed connection : String) (limits : Quota.Limits) (now : Instant) :
    Action Quota.Decision :=
  call .reserve fun s =>
    let (d, ledger) := s.ledger.reserve feed connection limits now
    (d, { s with ledger })

def release (id : Int) : Action Unit :=
  call .release fun s => ((), { s with ledger := s.ledger.release id })

def countReservations (feed : String) (connection : Option String) (since : Instant) :
    Action Nat :=
  ask .countReservations (·.ledger.countSince feed connection since.millis)

def pruneReservations (before : Instant) : Action Nat :=
  call .pruneReservations fun s =>
    let (n, ledger) := s.ledger.prune before
    (n, { s with ledger })

def purgeReservations (feed : String) : Action Nat :=
  call .purgeReservations fun s =>
    let (n, ledger) := s.ledger.purge feed
    (n, { s with ledger })

def acquireLease (feed holder : String) (now : Instant) (seconds : Nat) : Action Bool :=
  call .acquireLease fun s =>
    let (taken, leases) := s.leases.acquire feed holder now seconds
    (taken, { s with leases })

def releaseLease (feed holder : String) : Action Bool :=
  call .releaseLease fun s =>
    let (released, leases) := s.leases.release feed holder
    (released, { s with leases })

def deleteLease (feed : String) : Action Nat :=
  call .deleteLease fun s =>
    let (n, leases) := s.leases.delete feed
    (n, { s with leases })

end Newswire.Store
