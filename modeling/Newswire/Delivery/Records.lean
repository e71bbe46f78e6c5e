import Newswire.Delivery.Outcome

/-!
# Records of deliveries

What came of each delivery is recorded once and not changed afterwards. There is at most one record
of an identifier, and at most one for an event, a connection and an article.
-/

namespace Newswire.Delivery

/-- A delivery that has been tried or given up. -/
structure Attempt where
  event : String
  feed : String
  connection : String
  article : String
  outcome : Outcome
  /-- When it was tried, in whole milliseconds. -/
  time : Int
  deriving Repr, DecidableEq

/-- What a record is known by: a text that it was given, or a number drawn for it. -/
inductive RecordId where
  | given (text : String)
  | drawn (number : Nat)
  deriving Repr, DecidableEq

namespace RecordId

def text : RecordId → String
  | given text => text
  | drawn number => toString number

/-- The number that was drawn, or zero. -/
def number : RecordId → Nat
  | given _ => 0
  | drawn number => number

end RecordId

structure Record where
  id : RecordId
  attempt : Attempt
  deriving Repr, DecidableEq

/-- The two attempts are for the same event, connection and article. -/
def Attempt.matchesKey (a b : Attempt) : Bool :=
  a.event == b.event && a.connection == b.connection && a.article == b.article

/-- Only one of the two records can be kept. -/
def Record.clashes (r s : Record) : Bool := r.id == s.id || r.attempt.matchesKey s.attempt

structure Records where
  rows : List Record := []
  deriving Repr, DecidableEq, Inhabited

namespace Records

/-- Adds a record unless it clashes with one that is there; says whether it was added. -/
def insert (rs : Records) (r : Record) : Bool × Records :=
  if rs.rows.any (·.clashes r) then (false, rs) else (true, ⟨rs.rows ++ [r]⟩)

/-- A number that no record has. -/
def freshNumber (rs : Records) : Nat := (rs.rows.map fun r => r.id.number).foldl max 0 + 1

/-- Adds a record under a number of its own. -/
def insertNew (rs : Records) (a : Attempt) : Bool × Records :=
  rs.insert ⟨.drawn rs.freshNumber, a⟩

/-- The connections and articles that an event has records for. -/
def ofEvent (rs : Records) (event : String) : List (String × String) :=
  (rs.rows.filter fun r => r.attempt.event == event).map fun r =>
    (r.attempt.connection, r.attempt.article)

def newerFirst (r s : Record) : Bool :=
  s.attempt.time < r.attempt.time || (s.attempt.time == r.attempt.time && r.id.text ≤ s.id.text)

def olderFirst (r s : Record) : Bool :=
  r.attempt.time < s.attempt.time || (r.attempt.time == s.attempt.time && r.id.text ≤ s.id.text)

def ofFeed (rs : Records) (feed : String) : List Record :=
  rs.rows.filter fun r => r.attempt.feed == feed

/-- The newest records of a feed; a limit below zero is none. -/
def latest (rs : Records) (feed : String) (limit : Int) : List Record :=
  let rows := (rs.ofFeed feed).mergeSort newerFirst
  if limit < 0 then rows else rows.take limit.toNat

/-- The records of an article, the oldest first. -/
def ofArticle (rs : Records) (article : String) : List Record :=
  (rs.rows.filter fun r => r.attempt.article == article).mergeSort olderFirst

def count (rs : Records) (feed : String) (status : Status) : Nat :=
  ((rs.ofFeed feed).filter fun r => r.attempt.outcome.status == status).length

/-- Removes the records of a feed and gives their number. -/
def delete (rs : Records) (feed : String) : Nat × Records :=
  ((rs.ofFeed feed).length, ⟨rs.rows.filter fun r => r.attempt.feed != feed⟩)

end Records

end Newswire.Delivery
