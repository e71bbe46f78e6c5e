import Newswire.Error
import Newswire.Json.Record
import Newswire.Toml.Reader

/-!
# Settings

The settings of the program, their defaults, the document they are read from, the variables that
override them, and the values that make no sense.
-/

namespace Newswire

namespace Settings

structure Database where
  path : String := "data/feedrelay.db"
  deriving Repr, DecidableEq, Inhabited

structure Logging where
  level : String := "info"
  file : Option String := none
  deriving Repr, DecidableEq, Inhabited

structure Delivery where
  /-- Articles of a feed in a day, where the feed does not say. -/
  dailyLimit : Nat := 100
  /-- The greatest length of a message. -/
  maxLength : Nat := 2000
  /-- The number of rejections in a row that leads to disabling. -/
  threshold : Nat := 5
  /-- Seconds that a call of a store may take. -/
  storeTimeout : Nat := 10
  /-- Seconds for which the lease of a feed is taken. -/
  leaseSeconds : Nat := 300
  skipInitial : Bool := true
  /-- Values are remembered as digests. -/
  digests : Bool := true
  /-- Seconds for which reservations are kept. -/
  retention : Nat := 2592000
  outbox : String := "data/outbox.jsonl"
  deriving Repr, DecidableEq, Inhabited

structure Dispatch where
  /-- The number of feeds that are worked on at the same time. -/
  maxFeeds : Nat := 8
  /-- The number of events that may wait for one feed. -/
  capacity : Nat := 64
  /-- Seconds after which a worker without events retires. -/
  idleSeconds : Nat := 300
  deriving Repr, DecidableEq, Inhabited

end Settings

structure Settings where
  database : Settings.Database := {}
  logging : Settings.Logging := {}
  delivery : Settings.Delivery := {}
  dispatch : Settings.Dispatch := {}
  deriving Repr, DecidableEq, Inhabited

namespace Settings

namespace Database

def fields : List (Json.Field Database) :=
  [.allows "path" .text fun s d => { d with path := s }]

def encode (d : Database) : Json := .obj [("path", .str d.path)]

end Database

namespace Logging

def fields : List (Json.Field Logging) :=
  [.allows "level" .text fun s l => { l with level := s },
   .allows "file" (.nullable .text) fun s l => { l with file := s }]

def encode (l : Logging) : Json := .obj [("level", .str l.level), ("file", .ofText? l.file)]

end Logging

namespace Delivery

def fields : List (Json.Field Delivery) :=
  [.allows "default_daily_limit" .nat32 fun n d => { d with dailyLimit := n },
   .allows "max_message_length" .nat64 fun n d => { d with maxLength := n },
   .allows "disable_threshold" .nat32 fun n d => { d with threshold := n },
   .allows "store_timeout_secs" .nat64 fun n d => { d with storeTimeout := n },
   .allows "lease_ttl_secs" .nat64 fun n d => { d with leaseSeconds := n },
   .allows "skip_initial_articles" .bool fun b d => { d with skipInitial := b },
   .allows "hash_field_values" .bool fun b d => { d with digests := b },
   .allows "reservation_retention_secs" .nat64 fun n d => { d with retention := n },
   .allows "outbox_path" .text fun s d => { d with outbox := s }]

def decode : Json.Decoder Delivery := Json.record {} fields

def encode (d : Delivery) : Json :=
  .obj
    [("default_daily_limit", .int d.dailyLimit), ("max_message_length", .int d.maxLength),
     ("disable_threshold", .int d.threshold), ("store_timeout_secs", .int d.storeTimeout),
     ("lease_ttl_secs", .int d.leaseSeconds), ("skip_initial_articles", .bool d.skipInitial),
     ("hash_field_values", .bool d.digests), ("reservation_retention_secs", .int d.retention),
     ("outbox_path", .str d.outbox)]

end Delivery

namespace Dispatch

def fields : List (Json.Field Dispatch) :=
  [.allows "max_concurrent_feeds" .nat64 fun n d => { d with maxFeeds := n },
   .allows "queue_capacity" .nat64 fun n d => { d with capacity := n },
   .allows "idle_timeout_secs" .nat64 fun n d => { d with idleSeconds := n }]

def decode : Json.Decoder Dispatch := Json.record {} fields

def encode (d : Dispatch) : Json :=
  .obj
    [("max_concurrent_feeds", .int d.maxFeeds), ("queue_capacity", .int d.capacity),
     ("idle_timeout_secs", .int d.idleSeconds)]

end Dispatch

def encode (s : Settings) : Json :=
  .obj
    [("database", s.database.encode), ("logging", s.logging.encode),
     ("delivery", s.delivery.encode), ("dispatch", s.dispatch.encode)]

mutual

/-- A value of a document as a JSON value. A date becomes something that has no fields to read. -/
def ofToml : Toml → Json
  | .text s => .str s
  | .whole n => .int n
  | .flag b => .bool b
  | .real lexeme => .real lexeme
  | .date _ => .obj []
  | .list items => .arr (ofItems items)
  | .table _ entries => .obj (ofEntries entries)
  | .tables items => .arr (ofTables items)

def ofItems : List Toml → List Json
  | [] => []
  | v :: rest => ofToml v :: ofItems rest

def ofEntries : List (String × Toml) → List (String × Json)
  | [] => []
  | (k, v) :: rest => (k, ofToml v) :: ofEntries rest

def ofTables : List (List (String × Toml)) → List Json
  | [] => []
  | es :: rest => .obj (ofEntries es) :: ofTables rest

end

/-- A section, which may also be given as a list of its values; further items are passed over. -/
def sectionOf {σ : Type} (blank : σ) (fields : List (Json.Field σ)) : Json.Decoder σ
  | .arr items => Json.record blank fields (.arr (items.take fields.length))
  | j => Json.record blank fields j

def fields : List (Json.Field Settings) :=
  [.allows "database" (sectionOf {} Database.fields) fun d s => { s with database := d },
   .allows "logging" (sectionOf {} Logging.fields) fun l s => { s with logging := l },
   .allows "delivery" (sectionOf {} Delivery.fields) fun d s => { s with delivery := d },
   .allows "dispatch" (sectionOf {} Dispatch.fields) fun d s => { s with dispatch := d }]

/-- The settings that a document gives. -/
def read (document : String) : Except Error Settings :=
  match Toml.read? document with
  | none => .error (.invalid "config parse error")
  | some entries =>
    match Json.record {} fields (.obj (ofEntries entries)) with
    | .ok s => .ok s
    | .error _ => .error (.invalid "config parse error")

/-- The variables of the environment. -/
abbrev Variables := List (String × String)

/-- The value of a variable that is set to something. -/
def filled? (vs : Variables) (name : String) : Option String := (vs.lookup name).filter (· != "")

/-- The settings with those of the environment in their place. -/
def overriddenBy (s : Settings) (vs : Variables) : Settings :=
  { s with
    database := { s.database with
      path := (filled? vs "FEEDRELAY_DATABASE_PATH").getD s.database.path }
    logging := { s.logging with
      level := (filled? vs "FEEDRELAY_LOG_LEVEL").getD s.logging.level } }

/-- What makes no sense about settings, the first such thing. -/
def fault? (s : Settings) : Option String :=
  if s.delivery.maxLength = 0 then some "delivery.max_message_length must be greater than 0"
  else if s.delivery.threshold = 0 then some "delivery.disable_threshold must be greater than 0"
  else if s.delivery.storeTimeout = 0 then some "delivery.store_timeout_secs must be greater than 0"
  else if s.delivery.retention < 86400 then
    some "delivery.reservation_retention_secs must cover at least one day"
  else if s.dispatch.maxFeeds = 0 ∨ s.dispatch.capacity = 0 then
    some "dispatch.max_concurrent_feeds and dispatch.queue_capacity must be greater than 0"
  else if s.dispatch.idleSeconds = 0 then some "dispatch.idle_timeout_secs must be greater than 0"
  else none

/-- Refuses settings that make no sense. -/
def check (s : Settings) : Except Error Unit :=
  match s.fault? with
  | some cause => .error (.invalid cause)
  | none => .ok ()

end Settings

end Newswire
