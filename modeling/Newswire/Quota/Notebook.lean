import Newswire.Quota.Basic

/-!
# Reservations in memory

A notebook has a page for each feed that has asked for a reservation, also for one that was refused.
It counts what is on the page and writes a reservation down only where every limit leaves room.
-/

namespace Newswire.Quota

structure Entry where
  id : Nat
  connection : String
  time : Instant
  deriving Repr, DecidableEq

structure Page where
  feed : String
  entries : List Entry := []
  deriving Repr, DecidableEq

structure Notebook where
  pages : List Page := []
  /-- The number of the next reservation. -/
  next : Nat := 1
  deriving Repr, DecidableEq, Inhabited

namespace Page

/-- The entry counts for the connection; without one, every entry counts. -/
def concerns (connection : Option String) (e : Entry) : Bool := connection.all (e.connection == ·)

/-- The number of entries behind a moment. -/
def countAfter (p : Page) (cutoff : Instant) (connection : Option String) : Nat :=
  (p.entries.filter fun e => cutoff < e.time && concerns connection e).length

/-- The first limit of the connection that leaves no room. -/
def exhausted (p : Page) (connection : String) (now : Instant) (limits : List RateLimit) :
    Option RateLimit :=
  limits.find? fun l => l.limit ≤ p.countAfter (l.start now) (some connection)

end Page

namespace Notebook

/-- The page of a feed, which is empty as long as there is none. -/
def page (b : Notebook) (feed : String) : Page :=
  (b.pages.find? (·.feed == feed)).getD { feed }

def put (b : Notebook) (p : Page) : Notebook :=
  { b with pages := p :: b.pages.filter (·.feed != p.feed) }

def reserve (b : Notebook) (feed connection : String) (limits : Limits) (now : Instant) :
    Decision × Notebook :=
  let p := b.page feed
  if limits.daily ≤ p.countAfter (dayStart now) none then (.dayExceeded, b.put p)
  else
    match p.exhausted connection now limits.connection with
    | some l => (.limitExceeded l.id, b.put p)
    | none =>
      let p := { p with entries := p.entries ++ [⟨b.next, connection, now⟩] }
      (.allowed b.next, { b.put p with next := b.next + 1 })

/-- Keeps the entries that pass the test. -/
def keep (b : Notebook) (test : Entry → Bool) : Notebook :=
  { b with pages := b.pages.map fun p => { p with entries := p.entries.filter test } }

def release (b : Notebook) (id : Int) : Notebook := b.keep fun e => (e.id : Int) != id

def count (b : Notebook) (feed : String) (connection : Option String) (since : Instant) : Nat :=
  (b.page feed).countAfter since connection

/-- The number of entries on all pages. -/
def size (b : Notebook) : Nat := b.pages.foldl (fun n p => n + p.entries.length) 0

/-- Removes the entries before a moment, and the pages that this leaves empty. -/
def prune (b : Notebook) (before : Instant) : Nat × Notebook :=
  let kept := b.keep fun e => before ≤ e.time
  (b.size - kept.size, { kept with pages := kept.pages.filter fun p => !p.entries.isEmpty })

def purge (b : Notebook) (feed : String) : Nat × Notebook :=
  ((b.page feed).entries.length, { b with pages := b.pages.filter (·.feed != feed) })

def answer (b : Notebook) : Request → Answer × Notebook
  | .reserve feed connection limits now =>
    let (d, b) := b.reserve feed connection limits now
    (.decision d, b)
  | .release id => (.done, b.release id)
  | .count feed connection since => (.number (b.count feed connection since), b)
  | .remaining feed daily now =>
    (.number (room daily (b.count feed none (dayStart now))), b)
  | .prune before =>
    let (n, b) := b.prune before
    (.number n, b)
  | .purge feed =>
    let (n, b) := b.purge feed
    (.number n, b)

end Notebook

end Newswire.Quota
