import Newswire.Connection
import Newswire.Delivery.Response
import Newswire.Message.Payload
import Newswire.Store.Basic

/-!
# Plans

A plan says step by step what is asked of the stores and what is sent to receivers, where each step
may depend on the answers to those before it. It is carried out in a world, one step at a time, so
that the steps of several plans can also be taken in turns.
-/

namespace Newswire

/-- A message on its way through a connection. -/
structure Sending where
  connection : String
  target : Target
  payload : Message.Payload
  deriving Repr, DecidableEq

/-- What the receivers answer to a message, after the messages that were sent before. -/
abbrev Receiver := List Sending → Sending → Delivery.Response

/-- The stores, the number of calls that have been made, and what has been sent. -/
structure World where
  stores : Stores := {}
  calls : Nat := 0
  sent : List Sending := []
  deriving Repr, Inhabited

/-- What befalls the calls of a plan, and who receives its messages. -/
structure Surroundings where
  conditions : Store.Conditions := Store.calm
  /-- Which calls have their effect, by how many went before and by their kind. -/
  lands : Nat → Store.Kind → Bool := conditions.answered
  isAtomic : conditions.IsAtomic lands := by exact Store.Conditions.isAtomic_answered _
  receiver : Receiver := fun _ _ => .accepted

inductive Plan (α : Type) : Type 1 where
  | done (result : α)
  | call {β : Type} (c : Store.Call β) (next : Except Store.Outage β → Plan α)
  | send (s : Sending) (next : Delivery.Response → Plan α)

namespace Plan

variable {α β : Type}

def bind : Plan α → (α → Plan β) → Plan β
  | done a, f => f a
  | call c next, f => call c fun answer => (next answer).bind f
  | send s next, f => send s fun answer => (next answer).bind f

instance : Monad Plan where
  pure := done
  bind := bind

end Plan

/-- The answer to a call. There is none to one that something befalls. -/
def World.answer {β : Type} (w : World) (around : Surroundings) (c : Store.Call β) :
    Except Store.Outage β × World :=
  let (b, changed) := c.effect w.stores
  let stores := if around.lands w.calls c.kind then changed else w.stores
  let answer :=
    match around.conditions w.calls c.kind with
    | some o => .error o
    | none => .ok b
  (answer, { w with stores, calls := w.calls + 1 })

/-- The answer to a message. -/
def World.receive (w : World) (receiver : Receiver) (s : Sending) : Delivery.Response × World :=
  (receiver w.sent s, { w with sent := w.sent ++ [s] })

namespace Plan

variable {α : Type}

/-- Takes the first step of a plan and gives the rest of it. -/
def step (around : Surroundings) (w : World) : Plan α → Plan α × World
  | done a => (done a, w)
  | call c next =>
    let (answer, w) := w.answer around c
    (next answer, w)
  | send s next =>
    let (answer, w) := w.receive around.receiver s
    (next answer, w)

/-- Carries a plan out to its end. -/
def run (around : Surroundings) : Plan α → World → α × World
  | done a, w => (a, w)
  | call c next, w =>
    let (answer, w) := w.answer around c
    (next answer).run around w
  | send s next, w =>
    let (answer, w) := w.receive around.receiver s
    (next answer).run around w

end Plan

end Newswire
