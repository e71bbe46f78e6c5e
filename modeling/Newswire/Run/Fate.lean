import Newswire.Delivery.Outcome
import Newswire.Event.Output
import Newswire.Message.Compose
import Newswire.Article
import Newswire.Connection
import Newswire.Rule.Verdict

/-!
# What becomes of an article at a connection

A run takes every chosen article to every connection of its event. What becomes of it there can
often be told from the article and the connection alone; the rest depends on limits and receivers.
-/

namespace Newswire.Run

/-- A connection with its rule made ready. -/
structure Lane where
  connection : Connection
  screen : Screen
  deriving Inhabited

def Lane.ofConnection (c : Connection) : Lane := ⟨c, .prepare c.rule⟩

/-- An article, with its identity, on its way to a lane. -/
structure Errand where
  article : Article
  identity : String
  lane : Lane
  deriving Inhabited

namespace Errand

/-- Every article to every lane, article by article. -/
def all (articles : List Article) (lanes : List Lane) : List Errand :=
  articles.flatMap fun a =>
    let identity := a.identity
    lanes.map fun l => ⟨a, identity, l⟩

def connection (e : Errand) : Connection := e.lane.connection

/-- What a record of the errand is found by, within an event. -/
def key (e : Errand) : String × String := (e.connection.id, e.identity)

end Errand

/-- What can be told about an errand without asking anyone. -/
inductive Prospect where
  /-- Nothing will be sent. -/
  | settled (outcome : Delivery.Outcome)
  /-- A message is to be made of these fields. -/
  | toSend (fields : Fields)

/-- The derived fields are added first, since the rule may be about them. -/
def Errand.prospect (e : Errand) : Prospect :=
  match Message.Derivation.addAll e.article.flattened e.connection.derivations with
  | .error failure => .settled (.failed .articleProcessing failure.message)
  | .ok fields =>
    if !(e.lane.screen.judge fields false).passed then .settled .filteredOut
    else if !e.connection.target.isSet then
      .settled (.failed .noTarget "connection has no channel or webhook")
    else .toSend fields

/-- How an errand ended. -/
structure Ending where
  outcome : Delivery.Outcome
  /-- The record of it was added; there was none for the same event. -/
  isRecorded : Bool
  rejection : Option Rejection := none
  disable : Option DisableRequest := none
  deriving Repr, DecidableEq

inductive Fate where
  /-- The connection was rejected earlier in the run. -/
  | suppressed
  /-- There was a record of it before the run. -/
  | skipped
  /-- A limit does not allow it at present. -/
  | withheld
  | ended (e : Ending)
  deriving Repr, DecidableEq

namespace Fate

/-- The connection was rejected by this errand. -/
def isRejection : Fate → Bool
  | ended e => e.rejection.isSome
  | _ => false

/-- What goes out about the fate of an errand of a feed. -/
def events (feed : String) (e : Errand) : Fate → List Event.Output
  | ended ending =>
    (if ending.isRecorded then
      [.delivered feed e.connection.id e.identity ending.outcome.status ending.outcome.trouble?]
    else [])
      ++ ending.disable.toList.map .disable
  | _ => []

end Fate

/-- What goes out about the rule of a lane, if it has faults. -/
def Lane.events (feed : String) (l : Lane) : List Event.Output :=
  if l.screen.faults.isEmpty then [] else [.ruleFaults feed l.connection.id l.screen.faults]

/-- What is said about a run that came to its end. -/
structure Report where
  events : List Event.Output := []
  /-- The number of articles that were chosen. -/
  selected : Nat := 0
  withheld : Nat := 0
  skipped : Nat := 0
  deriving Repr, DecidableEq, Inhabited

namespace Report

/-- The number of deliveries that were recorded. -/
def results (r : Report) : Nat := (r.events.filter Event.Output.isResult).length

/-- The report on errands and what became of them. -/
def ofFates (feed : String) (selected : Nat) (lanes : List Lane) (fates : List (Errand × Fate)) :
    Report where
  events := lanes.flatMap (Lane.events feed) ++ fates.flatMap fun (e, f) => f.events feed e
  selected := selected
  withheld := (fates.filter (·.2 == .withheld)).length
  skipped := (fates.filter (·.2 == .skipped)).length

def encode (r : Report) : Json :=
  .obj
    [("events", .arr (r.events.map Event.Output.encode)), ("selected", .int r.selected),
     ("withheld", .int r.withheld), ("skipped", .int r.skipped), ("results", .int r.results)]

end Report

end Newswire.Run
