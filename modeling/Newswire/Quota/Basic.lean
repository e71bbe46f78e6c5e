import Newswire.Instant
import Newswire.Json.Record

/-!
# Limits on deliveries

A feed may deliver so many times within a day, and a connection so many times within each of its own
windows. A window reaches back from the present and does not include the moment at which it starts.
-/

namespace Newswire

/-- At most `limit` deliveries within `window` seconds. -/
structure RateLimit where
  id : String := ""
  window : Nat := 0
  limit : Nat := 0
  deriving Repr, DecidableEq, Inhabited

namespace RateLimit

def daySeconds : Nat := 86400

/-- The longest window, about ten years; a longer one is cut down to it. -/
def maxSeconds : Nat := 10 * 366 * daySeconds

/-- The first moment that can be told. -/
def firstMoment : Instant := .ofMillis (-8334601228800000)

def seconds (l : RateLimit) : Nat := min l.window maxSeconds

/-- The moment after which deliveries count. -/
def start (l : RateLimit) (now : Instant) : Instant :=
  let t := now.ago (l.seconds * 1000)
  if t < firstMoment then firstMoment else t

def decode : Json.Decoder RateLimit :=
  Json.record {}
    [.requires "id" .text fun s l => { l with id := s },
     .requires "timeWindowSeconds" .nat64 fun n l => { l with window := n },
     .requires "limit" .nat32 fun n l => { l with limit := n }]

def encode (l : RateLimit) : Json :=
  .obj [("id", .str l.id), ("timeWindowSeconds", .int l.window), ("limit", .int l.limit)]

end RateLimit

namespace Quota

/-- The limits on one delivery. -/
structure Limits where
  daily : Nat
  connection : List RateLimit := []
  deriving Repr, DecidableEq

/-- The moment after which deliveries count for the day. -/
def dayStart (now : Instant) : Instant := now.ago (RateLimit.daySeconds * 1000)

inductive Decision where
  | allowed (id : Nat)
  | dayExceeded
  | limitExceeded (id : String)
  deriving Repr, DecidableEq

/-- A delivery that has been allowed. -/
structure Reservation where
  id : Nat
  feed : String
  connection : String
  /-- When it was allowed, as its keeper counts time. -/
  time : Int
  deriving Repr, DecidableEq

/-- Something that is asked of a keeper of reservations. -/
inductive Request where
  | reserve (feed connection : String) (limits : Limits) (now : Instant)
  | release (id : Int)
  | count (feed : String) (connection : Option String) (since : Instant)
  | remaining (feed : String) (daily : Nat) (now : Instant)
  | prune (before : Instant)
  | purge (feed : String)
  deriving Repr

inductive Answer where
  | decision (d : Decision)
  | done
  | number (n : Nat)
  deriving Repr, DecidableEq

/-- How many deliveries the day still has room for, when so many count already. -/
def room (daily used : Nat) : Nat := daily - used

end Quota

end Newswire
