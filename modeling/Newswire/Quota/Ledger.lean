import Newswire.Quota.Basic

/-!
# Reservations in a table

A ledger is one table for all feeds, which holds times in whole milliseconds. A reservation is
entered first and then counted with the others; if a limit turns out to be exceeded, the table goes
back to what it was.
-/

namespace Newswire.Quota

structure Ledger where
  rows : List Reservation := []
  /-- The number of the last reservation that was entered. -/
  last : Nat := 0
  deriving Repr, DecidableEq, Inhabited

namespace Ledger

/-- The row is about the feed, and about the connection if there is one. -/
def concerns (feed : String) (connection : Option String) (r : Reservation) : Bool :=
  r.feed == feed && connection.all (r.connection == ·)

def countSince (g : Ledger) (feed : String) (connection : Option String) (since : Int) : Nat :=
  (g.rows.filter fun r => concerns feed connection r && since < r.time).length

/-- The next reservation, entered without regard to limits. -/
def enter (g : Ledger) (feed connection : String) (now : Int) : Ledger :=
  ⟨g.rows ++ [⟨g.last + 1, feed, connection, now⟩], g.last + 1⟩

/-- The first limit of the connection that is exceeded. -/
def exceeded (g : Ledger) (feed connection : String) (now : Instant) (limits : List RateLimit) :
    Option RateLimit :=
  limits.find? fun l => l.limit < g.countSince feed (some connection) (l.start now).millis

def reserve (g : Ledger) (feed connection : String) (limits : Limits) (now : Instant) :
    Decision × Ledger :=
  let entered := g.enter feed connection now.millis
  if limits.daily < entered.countSince feed none (dayStart now).millis then (.dayExceeded, g)
  else
    match entered.exceeded feed connection now limits.connection with
    | some l => (.limitExceeded l.id, g)
    | none => (.allowed entered.last, entered)

def release (g : Ledger) (id : Int) : Ledger :=
  { g with rows := g.rows.filter fun r => (r.id : Int) != id }

/-- Removes the rows that pass the test and gives their number. -/
def remove (g : Ledger) (test : Reservation → Bool) : Nat × Ledger :=
  ((g.rows.filter test).length, { g with rows := g.rows.filter fun r => !test r })

def prune (g : Ledger) (before : Instant) : Nat × Ledger := g.remove (·.time < before.millis)

def purge (g : Ledger) (feed : String) : Nat × Ledger := g.remove (·.feed == feed)

def answer (g : Ledger) : Request → Answer × Ledger
  | .reserve feed connection limits now =>
    let (d, g) := g.reserve feed connection limits now
    (.decision d, g)
  | .release id => (.done, g.release id)
  | .count feed connection since => (.number (g.countSince feed connection since.millis), g)
  | .remaining feed daily now =>
    (.number (room daily (g.countSince feed none (dayStart now).millis)), g)
  | .prune before =>
    let (n, g) := g.prune before
    (.number n, g)
  | .purge feed =>
    let (n, g) := g.purge feed
    (.number n, g)

end Ledger

end Newswire.Quota
