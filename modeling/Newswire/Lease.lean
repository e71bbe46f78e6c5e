import Newswire.Instant

/-!
# Leases

A feed is worked on by one holder at a time, who takes a lease on it for a while. A lease that has
run out counts no more.
-/

namespace Newswire

structure Lease where
  feed : String
  holder : String
  /-- The moment at which it runs out, in milliseconds. -/
  expires : Int
  deriving Repr, DecidableEq

/-- The leases of all feeds, at most one for each. -/
structure Leases where
  rows : List Lease := []
  deriving Repr, DecidableEq, Inhabited

namespace Leases

/-- The last moment that can be told. -/
def lastMoment : Int := 0x7FFFFFFFFFFFFFFF

/-- When a lease of that many nanoseconds runs out that is taken now. Both are rounded down to whole
milliseconds. -/
def expiryAfter (now : Instant) (nanos : Nat) : Int :=
  min (now.millis + min ((nanos / 1000000 : Nat) : Int) lastMoment) lastMoment

/-- When a lease of that many seconds runs out that is taken now. -/
def expiry (now : Instant) (seconds : Nat) : Int := expiryAfter now (seconds * 1000000000)

def get? (ls : Leases) (feed : String) : Option Lease := ls.rows.find? (·.feed == feed)

/-- The lease may be taken by the holder: there is none, or it has run out, or it is the
holder's. -/
def isFree (ls : Leases) (feed holder : String) (now : Instant) : Bool :=
  match ls.get? feed with
  | none => true
  | some l => l.expires ≤ now.millis || l.holder == holder

def without (ls : Leases) (feed : String) : Leases := ⟨ls.rows.filter (·.feed != feed)⟩

/-- Takes the lease of a feed for that many nanoseconds, if it is free. -/
def acquireFor (ls : Leases) (feed holder : String) (now : Instant) (nanos : Nat) : Bool × Leases :=
  if ls.isFree feed holder now then
    (true, ⟨(ls.without feed).rows ++ [⟨feed, holder, expiryAfter now nanos⟩]⟩)
  else (false, ls)

/-- Takes the lease of a feed for `seconds`, if it is free. -/
def acquire (ls : Leases) (feed holder : String) (now : Instant) (seconds : Nat) : Bool × Leases :=
  ls.acquireFor feed holder now (seconds * 1000000000)

/-- Gives a lease back; only its holder can. -/
def release (ls : Leases) (feed holder : String) : Bool × Leases :=
  match ls.get? feed with
  | some l => if l.holder == holder then (true, ls.without feed) else (false, ls)
  | none => (false, ls)

/-- Removes the lease of a feed, whoever holds it. -/
def delete (ls : Leases) (feed : String) : Nat × Leases :=
  ((ls.rows.filter (·.feed == feed)).length, ls.without feed)

end Leases

end Newswire
