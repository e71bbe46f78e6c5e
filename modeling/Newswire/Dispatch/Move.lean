import Newswire.Dispatch.State
import Newswire.Settings

/-!
# Moves of submitters and workers

A move is one indivisible step of somebody who submits an event or of a worker. A history of the
whole is a list of moves, each of which was possible when its turn came; nothing else is said about
who moves when.
-/

namespace Newswire

/-- The event ends the work on its feed. -/
def Event.Input.isEnd : Event.Input → Bool
  | feedDeleted _ => true
  | _ => false

namespace Dispatch

inductive Move (ρ : Type) where
  /-- A worker is chosen for an event, and started if there is none. -/
  | enroll (e : Event.Input)
  /-- An event on its way gets into the queue. -/
  | enqueue (number : Nat)
  /-- A worker takes the first event of its queue. -/
  | receive (worker : Nat)
  /-- A worker tells that it has taken an event. -/
  | tell (worker : Nat)
  | start (worker : Nat)
  | finish (worker : Nat) (result : ρ)
  /-- A worker has waited too long for an event. -/
  | tire (worker : Nat)
  /-- A worker gives its queue up, unless an event is pending. -/
  | retire (worker : Nat)
  | report (worker : Nat)
  /-- No more events are accepted. -/
  | close
  /-- A worker stops because no event can come any more. -/
  | stop (worker : Nat)

namespace State

variable {ρ : Type}

/-- The queue of a worker is removed, if it still is the queue of its feed. -/
def dropQueue (s : State ρ) (n : Nat) : State ρ :=
  { s with queues := s.queues.filter fun q => q.2 != n }

/-- A move of the worker with a number. -/
def moveWorker? (s : State ρ) (n : Nat) (f : Worker ρ → Option (State ρ)) : Option (State ρ) :=
  (s.workers[n]?).bind f

def enroll (s : State ρ) (e : Event.Input) : State ρ :=
  let t : Ticket := ⟨s.next, e⟩
  let s := { s with next := s.next + 1 }
  match s.workerOf? e.feed with
  | some n =>
    { s with
      workers := s.workers.modify n fun w => { w with pending := w.pending + 1 }
      travelling := s.travelling ++ [(t, n)] }
  | none =>
    let n := s.workers.length
    { s with
      workers := s.workers ++ [{ feed := e.feed, pending := 1 }]
      queues := s.queues.filter (·.1 != e.feed) ++ [(e.feed, n)]
      travelling := s.travelling ++ [(t, n)] }

def enqueue? (capacity : Nat) (s : State ρ) (number : Nat) : Option (State ρ) :=
  match s.travelling.find? (·.1.number == number) with
  | none => none
  | some (t, n) =>
    s.moveWorker? n fun w =>
      let arrived := { s with travelling := s.travelling.filter (·.1.number != number) }
      if w.phase.isStopped then
        some { arrived.setWorker n { w with pending := w.pending - 1 } with
          refused := s.refused ++ [t] }
      else if w.queue.length < max capacity 1 then
        some (arrived.setWorker n { w with queue := w.queue ++ [t] })
      else none

def retire? (s : State ρ) (n : Nat) : Option (State ρ) :=
  s.moveWorker? n fun w =>
    match w.phase with
    | .idle =>
      if 0 < w.pending then some (s.setWorker n { w with phase := .listening })
      else some ((s.dropQueue n).setWorker n { w with phase := .stopped })
    | .ending t result =>
      if 0 < w.pending then some (s.setWorker n { w with phase := .reporting t result false })
      else some ((s.dropQueue n).setWorker n { w with phase := .reporting t result true })
    | _ => none

/-- Makes a move, if it is possible. -/
def move? (c : Settings.Dispatch) (s : State ρ) : Move ρ → Option (State ρ)
  | .enroll e => if s.awaited.isSome then none else some (s.enroll e)
  | .enqueue number => s.enqueue? c.capacity number
  | .receive n =>
    s.moveWorker? n fun w =>
      match w.phase, w.queue with
      | .listening, t :: rest => some (s.setWorker n { w with queue := rest, phase := .received t })
      | _, _ => none
  | .tell n =>
    s.moveWorker? n fun w =>
      match w.phase with
      | .received t =>
        some (s.setWorker n { w with pending := w.pending - 1, phase := .waiting t })
      | _ => none
  | .start n =>
    s.moveWorker? n fun w =>
      match w.phase with
      | .waiting t =>
        if s.handled < max c.maxFeeds 1 then some (s.setWorker n { w with phase := .handling t })
        else none
      | _ => none
  | .finish n result =>
    s.moveWorker? n fun w =>
      match w.phase with
      | .handling t =>
        some (s.setWorker n
          { w with
            phase := if t.event.isEnd then .ending t result else .reporting t result false })
      | _ => none
  | .tire n =>
    s.moveWorker? n fun w =>
      if w.phase.isListening && w.queue.isEmpty then
        some (s.setWorker n { w with phase := .idle })
      else none
  | .retire n => s.retire? n
  | .report n =>
    s.moveWorker? n fun w =>
      match w.phase with
      | .reporting _ result retired =>
        some { s.setWorker n { w with phase := if retired then .stopped else .listening } with
          results := s.results ++ [⟨w.feed, result⟩] }
      | _ => none
  | .close =>
    if s.awaited.isNone && s.travelling.isEmpty then
      some { s with awaited := some (s.queues.map (·.2)), queues := [] }
    else none
  | .stop n =>
    s.moveWorker? n fun w =>
      if s.awaited.isSome && w.phase.isListening && w.queue.isEmpty then
        some (s.setWorker n { w with phase := .stopped })
      else none

/-- Makes moves one after the other, if all of them are possible. -/
def moveAll? (c : Settings.Dispatch) (s : State ρ) (moves : List (Move ρ)) : Option (State ρ) :=
  moves.foldlM (move? c) s

/-- The moves that take an event from its submission to its result, when nothing else is under
way. -/
def courseOf (s : State ρ) (e : Event.Input) (result : ρ) : List (Move ρ) :=
  let n := (s.workerOf? e.feed).getD s.workers.length
  [.enroll e, .enqueue s.next, .receive n, .tell n, .start n, .finish n result]
    ++ (if e.isEnd then [.retire n] else [])
    ++ [.report n]

end State

end Dispatch

end Newswire
