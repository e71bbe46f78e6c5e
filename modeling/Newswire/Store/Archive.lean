import Newswire.Json.Reader
import Newswire.Json.Writer
import Newswire.Store.Basic

/-!
# The stores as a file

The stores are kept between two runs of the program as one JSON value with a member for each table.
A row is a list of its columns.
-/

namespace Newswire.Store.Archive

/-- The version of the form in which the tables are written. -/
def version : Nat := 5

def fingerprint (f : Fingerprint) : Json :=
  .arr [.str f.feed, .str f.field, .str f.value, .bool f.isDigest, .int f.created]

def fingerprint? : Json → Option Fingerprint
  | .arr [.str feed, .str field, .str value, .bool isDigest, .int created] =>
    some ⟨feed, field, value, isDigest, created⟩
  | _ => none

def recordId : Delivery.RecordId → Json
  | .given text => .str text
  | .drawn number => .int number

def recordId? : Json → Option Delivery.RecordId
  | .str text => some (.given text)
  | .int n => some (.drawn n.toNat)
  | _ => none

def outcome : Delivery.Outcome → List Json
  | .sent => [.str "sent", .null, .null]
  | .filteredOut => [.str "filtered-out", .null, .null]
  | .failed trouble cause => [.str "failed", .str trouble.name, .str cause]

def outcome? : List Json → Option Delivery.Outcome
  | [.str "sent", .null, .null] => some .sent
  | [.str "filtered-out", .null, .null] => some .filteredOut
  | [.str "failed", .str trouble, .str cause] =>
    (Delivery.Trouble.parse trouble).toOption.map (.failed · cause)
  | _ => none

def record (r : Delivery.Record) : Json :=
  let a := r.attempt
  .arr ([recordId r.id, .str a.event, .str a.feed, .str a.connection, .str a.article, .int a.time]
    ++ outcome a.outcome)

def record? : Json → Option Delivery.Record
  | .arr (id :: .str event :: .str feed :: .str connection :: .str article :: .int time ::
      rest) => do
    let id ← recordId? id
    let outcome ← outcome? rest
    return ⟨id, ⟨event, feed, connection, article, outcome, time⟩⟩
  | _ => none

def counter (c : Counter) : Json :=
  .arr [.str c.feed, .ofText? c.scope.connection?, .int c.attempts, .int c.created, .int c.updated]

def counter? : Json → Option Counter
  | .arr [.str feed, .null, .int attempts, .int created, .int updated] =>
    some ⟨feed, .feed, attempts.toNat, created, updated⟩
  | .arr [.str feed, .str id, .int attempts, .int created, .int updated] =>
    some ⟨feed, .connection id, attempts.toNat, created, updated⟩
  | _ => none

def reservation (r : Quota.Reservation) : Json :=
  .arr [.int r.id, .str r.feed, .str r.connection, .int r.time]

def reservation? : Json → Option Quota.Reservation
  | .arr [.int id, .str feed, .str connection, .int time] => some ⟨id.toNat, feed, connection, time⟩
  | _ => none

def lease (l : Lease) : Json := .arr [.str l.feed, .str l.holder, .int l.expires]

def lease? : Json → Option Lease
  | .arr [.str feed, .str holder, .int expires] => some ⟨feed, holder, expires⟩
  | _ => none

/-- The tables by their names; the last one holds the numbers that were given out last. -/
def tables (s : Stores) : List (String × Json) :=
  [("schema_version", .int version),
   ("article_fingerprints", .arr (s.fingerprints.rows.map fingerprint)),
   ("delivery_records", .arr (s.records.rows.map record)),
   ("feed_retry_records", .arr (s.counters.rows.map counter)),
   ("rate_limit_reservations", .arr (s.ledger.rows.map reservation)),
   ("feed_leases", .arr (s.leases.rows.map lease)),
   ("sqlite_sequence", .obj [("rate_limit_reservations", .int s.ledger.last)])]

/-- There is a table of that name. -/
def hasTable (name : String) : Bool := (tables {}).any (·.1 == name)

/-- The rows of a table. -/
def rows? {α : Type} (j : Json) (table : String) (row? : Json → Option α) : Option (List α) :=
  match j.get? table with
  | some (.arr rows) => rows.mapM row?
  | _ => none

def ofJson? (j : Json) : Option Stores := do
  let fingerprints ← rows? j "article_fingerprints" fingerprint?
  let records ← rows? j "delivery_records" record?
  let counters ← rows? j "feed_retry_records" counter?
  let reservations ← rows? j "rate_limit_reservations" reservation?
  let leases ← rows? j "feed_leases" lease?
  match (j.get? "sqlite_sequence").bind (·.get? "rate_limit_reservations") with
  | some (.int last) =>
    return ⟨⟨fingerprints⟩, ⟨records⟩, ⟨counters⟩, ⟨reservations, last.toNat⟩, ⟨leases⟩⟩
  | _ => none

def text (s : Stores) : String := (Json.obj (tables s)).compact

/-- The stores that a file holds; an empty file holds empty ones. -/
def ofText? (text : String) : Option Stores :=
  if text = "" then some {}
  else
    match Json.read text with
    | (j, true) => ofJson? j
    | _ => none

end Newswire.Store.Archive
