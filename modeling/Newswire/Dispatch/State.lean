import Newswire.Event.Input

/-!
# Queues and workers

Every feed that has events gets a queue and a worker, which takes the events one after the other. An
event is counted as pending from the moment a worker is chosen for it until that worker has taken
it, so that a worker does not retire while an event is on its way.
-/

namespace Newswire

namespace Dispatch

/-- An event with the number under which it was submitted. -/
structure Ticket where
  number : Nat
  event : Event.Input
  deriving Inhabited

/-- What a worker is at. Results are of type `ρ`. -/
inductive Phase (ρ : Type) where
  | listening
  /-- No event has come for so long that it will retire if it can. -/
  | idle
  /-- It has taken an event but not yet told so. -/
  | received (t : Ticket)
  /-- It waits until not too many events are being handled. -/
  | waiting (t : Ticket)
  | handling (t : Ticket)
  /-- It has handled the end of its feed and will retire if it can. -/
  | ending (t : Ticket) (result : ρ)
  /-- It has a result to report, and stops after that if it has retired. -/
  | reporting (t : Ticket) (result : ρ) (retired : Bool)
  | stopped
  deriving Inhabited

namespace Phase

variable {ρ : Type}

def isListening : Phase ρ → Bool
  | listening => true
  | _ => false

def isHandling : Phase ρ → Bool
  | handling _ => true
  | _ => false

def isStopped : Phase ρ → Bool
  | stopped => true
  | _ => false

end Phase

structure Worker (ρ : Type) where
  feed : String
  queue : List Ticket := []
  pending : Nat := 0
  phase : Phase ρ := .listening
  deriving Inhabited

/-- A result and the feed that it is about. -/
structure Reported (ρ : Type) where
  feed : String
  result : ρ
  deriving Repr, Inhabited

structure State (ρ : Type) where
  /-- All workers that were ever started, by their numbers. -/
  workers : List (Worker ρ) := []
  /-- The worker of each feed that has a queue. -/
  queues : List (String × Nat) := []
  /-- Events that are on their way to the queue of a worker. -/
  travelling : List (Ticket × Nat) := []
  /-- Events that came to the queue of a worker which had stopped. -/
  refused : List Ticket := []
  /-- The results in the order in which they were reported. -/
  results : List (Reported ρ) := []
  /-- The number of the next event. -/
  next : Nat := 0
  /-- Once no more events are accepted, the workers that are waited for. -/
  awaited : Option (List Nat) := none
  deriving Inhabited

namespace State

variable {ρ : Type}

/-- The number of feeds that have a queue. -/
def activeFeeds (s : State ρ) : Nat := s.queues.length

/-- The worker with a number has stopped, or there is none. -/
def hasStopped (s : State ρ) (n : Nat) : Bool := (s.workers[n]?).all (·.phase.isStopped)

/-- The number of events that are being handled. -/
def handled (s : State ρ) : Nat := (s.workers.filter (·.phase.isHandling)).length

/-- The worker that an event of a feed goes to, unless a new one has to be started. -/
def workerOf? (s : State ρ) (feed : String) : Option Nat :=
  (s.queues.lookup feed).filter fun n => !s.hasStopped n

/-- No more events are accepted and all workers that had a queue have stopped. -/
def isDown (s : State ρ) : Bool :=
  match s.awaited with
  | none => false
  | some ns => ns.all s.hasStopped

/-- The state with another worker under a number. -/
def setWorker (s : State ρ) (n : Nat) (w : Worker ρ) : State ρ :=
  { s with workers := s.workers.set n w }

end State

end Dispatch

end Newswire
