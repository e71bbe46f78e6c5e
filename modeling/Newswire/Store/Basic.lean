import Newswire.Delivery.Records
import Newswire.Fingerprint.Basic
import Newswire.Lease
import Newswire.Quota.Ledger
import Newswire.Rejection.Counters

/-!
# Stores

What is remembered from one event to the next, and the calls by which it is read and changed. A call
can go wrong: the store is out of order, or it does not answer in time. What befalls which call is
given by the conditions under which calls are made.
-/

namespace Newswire

structure Stores where
  fingerprints : Fingerprints := {}
  records : Delivery.Records := {}
  counters : Counters := {}
  ledger : Quota.Ledger := {}
  leases : Leases := {}
  deriving Repr, DecidableEq, Inhabited

namespace Store

inductive Kind where
  | seenValues | hasField | insertFingerprints | deleteFingerprints
  | insertRecord | recordsOfEvent | recordsOfFeed | recordsOfArticle | countRecords | deleteRecords
  | incrementCounter | getCounter | resetCounters | deleteCounters
  | reserve | release | countReservations | pruneReservations | purgeReservations
  | acquireLease | releaseLease | deleteLease
  deriving Repr, DecidableEq

/-- Something that is asked of the stores: what it answers, and what the stores are afterwards. -/
structure Call (α : Type) where
  kind : Kind
  effect : Stores → α × Stores

/-- Why a call gives no answer. -/
inductive Outage where
  | broken (cause : String)
  | stalled
  deriving Repr, DecidableEq

/-- What befalls the calls, by how many went before and by their kind. -/
abbrev Conditions := Nat → Kind → Option Outage

/-- Nothing befalls any call. -/
def calm : Conditions := fun _ _ => none

namespace Conditions

/-- The calls that nothing befalls. -/
def answered (c : Conditions) : Nat → Kind → Bool := fun n kind => (c n kind).isNone

/-- What is assumed of stores in all that is shown about calls without an answer: a call has its
effect exactly if it is answered. It would not be so if a store went on with a call for whose answer
nobody waits any more. -/
def IsAtomic (c : Conditions) (lands : Nat → Kind → Bool) : Prop :=
  ∀ n kind, lands n kind = c.answered n kind

theorem isAtomic_answered (c : Conditions) : c.IsAtomic c.answered := fun _ _ => rfl

end Conditions

inductive Failure where
  | outage (o : Outage)
  | blankConnection
  deriving Repr, DecidableEq

/-- The error that a failure becomes, in a step of that name. -/
def Failure.error (step : String) : Failure → Error
  | outage (.broken cause) => .database cause
  | outage .stalled => .timeout step
  | blankConnection => .invalid "connection id must not be empty"

end Store

end Newswire
