import Mathlib.Data.List.Basic
import Newswire.Dispatch.Move

/-!
# What a move can do

A move hires a worker or gives an event to one, it is a turn of a worker that stays, or a worker
goes, or no more events are accepted. What is proved of all moves is proved for these cases. What
becomes of the events is seen along the way.
-/

namespace Newswire.Dispatch

/-- How far an event has come. Its submission has come to its end when it is accepted. -/
inductive Stage where
  | submitted
  | accepted
  | started
  | finished
  deriving DecidableEq

structure Sight where
  stage : Stage
  ticket : Ticket

/-- The events that were seen to come to a stage, in that order. -/
def tickets (stage : Stage) (log : List Sight) : List Ticket :=
  (log.filter (·.stage = stage)).map (·.ticket)

/-- The events of a feed that were seen to come to a stage, in that order. -/
def ticketsOf (feed : String) (stage : Stage) (log : List Sight) : List Ticket :=
  (tickets stage log).filter (·.event.feed = feed)

variable {ρ : Type}

namespace Phase

/-- The event that a worker has taken and not yet handled. -/
def inHand : Phase ρ → List Ticket
  | received t => [t]
  | waiting t => [t]
  | handling t => [t]
  | _ => []

/-- The event that a worker has taken without telling so. -/
def untold : Phase ρ → List Ticket
  | received t => [t]
  | _ => []

def underWay : Phase ρ → List Ticket
  | handling t => [t]
  | _ => []

/-- The worker has given its queue up. -/
def isGone : Phase ρ → Bool
  | reporting _ _ retired => retired
  | stopped => true
  | _ => false

theorem isGone_of_stopped {phase : Phase ρ} (h : phase.isStopped = true) : phase.isGone = true := by
  cases phase with
  | stopped => rfl
  | _ => cases h

theorem eq_listening {phase : Phase ρ} (h : phase.isListening = true) : phase = .listening := by
  cases phase with
  | listening => rfl
  | _ => cases h

end Phase

namespace Worker

/-- The events that a worker still has to handle. -/
def held (w : Worker ρ) : List Ticket := w.phase.inHand ++ w.queue

/-- The feed that a worker works for, as long as it has not given its queue up. -/
def post (w : Worker ρ) : Option String := if w.phase.isGone then none else some w.feed

/-- What a worker without an event in hand can come to while it does not give its queue up. -/
inductive Pass (w : Worker ρ) : Phase ρ → Prop where
  | tire (hphase : w.phase = .listening) (hqueue : w.queue = []) : Pass w .idle
  | stay (hphase : w.phase = .idle) (hpending : 0 < w.pending) : Pass w .listening
  | remain {t : Ticket} {result : ρ} (hphase : w.phase = .ending t result)
      (hpending : 0 < w.pending) : Pass w (.reporting t result false)
  | report {t : Ticket} {result : ρ} (hphase : w.phase = .reporting t result false) :
      Pass w .listening
  | rest {t : Ticket} {result : ρ} (hphase : w.phase = .reporting t result true) :
      Pass w .stopped

theorem Pass.free {w : Worker ρ} {phase : Phase ρ} (h : w.Pass phase) :
    w.phase.inHand = [] ∧ phase.inHand = [] ∧ phase.isGone = w.phase.isGone := by
  cases h with
  | tire hphase => rw [hphase]; exact ⟨rfl, rfl, rfl⟩
  | stay hphase => rw [hphase]; exact ⟨rfl, rfl, rfl⟩
  | remain hphase => rw [hphase]; exact ⟨rfl, rfl, rfl⟩
  | report hphase => rw [hphase]; exact ⟨rfl, rfl, rfl⟩
  | rest hphase => rw [hphase]; exact ⟨rfl, rfl, rfl⟩

/-- What a worker comes to when it gives its queue up. -/
inductive Leave (w : Worker ρ) : Phase ρ → Prop where
  | idle (hphase : w.phase = .idle) : Leave w .stopped
  | ending {t : Ticket} {result : ρ} (hphase : w.phase = .ending t result) :
      Leave w (.reporting t result true)

theorem Leave.free {w : Worker ρ} {phase : Phase ρ} (h : w.Leave phase) :
    w.phase.inHand = [] ∧ phase.inHand = [] ∧ phase.isGone = true := by
  cases h with
  | idle hphase => rw [hphase]; exact ⟨rfl, rfl, rfl⟩
  | ending hphase => rw [hphase]; exact ⟨rfl, rfl, rfl⟩

/-- A turn of a worker that keeps its post. -/
inductive Turn (w : Worker ρ) : List Sight → Worker ρ → Prop where
  | receive {t : Ticket} {rest : List Ticket} (hphase : w.phase = .listening)
      (hqueue : w.queue = t :: rest) :
      Turn w [] { w with queue := rest, phase := .received t }
  | tell {t : Ticket} (hphase : w.phase = .received t) :
      Turn w [] { w with pending := w.pending - 1, phase := .waiting t }
  | start {t : Ticket} (hphase : w.phase = .waiting t) :
      Turn w [⟨.started, t⟩] { w with phase := .handling t }
  | finish {t : Ticket} {phase : Phase ρ} (hphase : w.phase = .handling t)
      (hfree : phase.inHand = []) (hgone : phase.isGone = false) :
      Turn w [⟨.finished, t⟩] { w with phase }
  | pass {phase : Phase ρ} (hpass : w.Pass phase) : Turn w [] { w with phase }

end Worker

namespace State

/-- What is seen of a move that is possible. -/
def sights (s : State ρ) : Move ρ → List Sight
  | .enroll e => [⟨.submitted, ⟨s.next, e⟩⟩]
  | .enqueue number =>
    match s.travelling.find? (·.1.number == number) with
    | some (t, n) => if s.hasStopped n then [] else [⟨.accepted, t⟩]
    | none => []
  | .start n =>
    (s.workers[n]?).elim [] fun w =>
      match w.phase with
      | .waiting t => [⟨.started, t⟩]
      | _ => []
  | .finish n _ =>
    (s.workers[n]?).elim [] fun w =>
      match w.phase with
      | .handling t => [⟨.finished, t⟩]
      | _ => []
  | _ => []

/-- What is seen while moves are made one after the other. -/
def seen (c : Settings.Dispatch) : State ρ → List (Move ρ) → List Sight
  | _, [] => []
  | s, m :: rest =>
    match s.move? c m with
    | some next => s.sights m ++ next.seen c rest
    | none => []

end State

/-- What a move can do. -/
inductive Step (c : Settings.Dispatch) (s : State ρ) : List Sight → State ρ → Prop where
  | join {e : Event.Input} {n : Nat} {w : Worker ρ} (hopen : s.awaited = none)
      (hqueue : s.queues.lookup e.feed = some n) (hw : s.workers[n]? = some w) :
      Step c s [⟨.submitted, ⟨s.next, e⟩⟩]
        { s with
          next := s.next + 1
          workers := s.workers.set n { w with pending := w.pending + 1 }
          travelling := s.travelling ++ [(⟨s.next, e⟩, n)] }
  | hire {e : Event.Input} (hopen : s.awaited = none)
      (hnone : ∀ n w, s.queues.lookup e.feed = some n → s.workers[n]? = some w →
        w.phase.isStopped = true) :
      Step c s [⟨.submitted, ⟨s.next, e⟩⟩]
        { s with
          next := s.next + 1
          workers := s.workers ++ [{ feed := e.feed, pending := 1 }]
          queues := s.queues.filter (·.1 != e.feed) ++ [(e.feed, s.workers.length)]
          travelling := s.travelling ++ [(⟨s.next, e⟩, s.workers.length)] }
  | arrive {t : Ticket} {n : Nat} {w : Worker ρ}
      (hfind : s.travelling.find? (·.1.number == t.number) = some (t, n))
      (hw : s.workers[n]? = some w) (hroom : w.queue.length < max c.capacity 1) :
      Step c s [⟨.accepted, t⟩]
        { s with
          workers := s.workers.set n { w with queue := w.queue ++ [t] }
          travelling := s.travelling.filter (·.1.number != t.number) }
  | refuse {t : Ticket} {n : Nat} {w : Worker ρ} {s' : State ρ} (ht : (t, n) ∈ s.travelling)
      (hw : s.workers[n]? = some w) (hphase : w.phase.isStopped = true) : Step c s [] s'
  | turn {n : Nat} {w w' : Worker ρ} {sights : List Sight} {results : List (Reported ρ)}
      (hw : s.workers[n]? = some w) (hturn : w.Turn sights w')
      (hpermit : w'.phase.isHandling = false ∨ s.handled < max c.maxFeeds 1) :
      Step c s sights { s with workers := s.workers.set n w', results }
  | retire {n : Nat} {w : Worker ρ} {phase : Phase ρ} (hw : s.workers[n]? = some w)
      (hpending : w.pending = 0) (hleave : w.Leave phase) :
      Step c s []
        { s with
          workers := s.workers.set n { w with phase }
          queues := s.queues.filter (·.2 != n) }
  | stop {n : Nat} {w : Worker ρ} (hclosed : s.awaited.isSome = true)
      (hw : s.workers[n]? = some w) (hphase : w.phase = .listening) (hqueue : w.queue = []) :
      Step c s [] { s with workers := s.workers.set n { w with phase := .stopped } }
  | close (hopen : s.awaited = none) (htravelling : s.travelling = []) :
      Step c s [] { s with awaited := some (s.queues.map (·.2)), queues := [] }

namespace State

variable {c : Settings.Dispatch} {s s' : State ρ}

theorem exists_of_moveWorker {n : Nat} {f : Worker ρ → Option (State ρ)}
    (h : s.moveWorker? n f = some s') : ∃ w, s.workers[n]? = some w ∧ f w = some s' :=
  Option.bind_eq_some_iff.mp h

theorem step_enroll {e : Event.Input} (hopen : s.awaited = none) :
    Step c s (s.sights (.enroll e)) (s.enroll e) := by
  rw [enroll]
  dsimp only
  split
  case h_1 n hworker =>
    obtain ⟨hlookup, hactive⟩ := Option.filter_eq_some_iff.mp hworker
    rcases hw : s.workers[n]? with _ | w
    · simp [hasStopped, hw] at hactive
    · rw [List.modify_eq_set_getElem?, hw]
      exact .join hopen hlookup hw
  case h_2 hnone =>
    apply Step.hire hopen
    intro n w hlookup hw
    rw [workerOf?] at hnone
    dsimp only at hnone
    rw [hlookup, Option.filter_some_eq_none] at hnone
    simpa [hasStopped, hw] using hnone

theorem step_enqueue {number : Nat} (h : s.enqueue? c.capacity number = some s') :
    Step c s (s.sights (.enqueue number)) s' := by
  rw [enqueue?] at h
  rcases hfind : s.travelling.find? (·.1.number == number) with _ | ⟨t, n⟩
  · rw [hfind] at h
    cases h
  · rw [hfind] at h
    obtain ⟨w, hw, h⟩ := exists_of_moveWorker h
    have hnumber : t.number = number := by simpa using List.find?_some hfind
    subst hnumber
    dsimp only at h
    split at h
    case isTrue hphase =>
      simp only [sights, hfind, hasStopped, hw, Option.all_some, hphase, if_true]
      exact .refuse (List.mem_of_find?_eq_some hfind) hw hphase
    case isFalse hphase =>
      split at h
      case isTrue hroom =>
        cases h
        simp only [sights, hfind, hasStopped, hw, Option.all_some, hphase]
        exact .arrive hfind hw hroom
      case isFalse => cases h

theorem step_retire {n : Nat} (h : s.retire? n = some s') : Step c s [] s' := by
  obtain ⟨w, hw, h⟩ := exists_of_moveWorker h
  split at h
  case h_1 hphase =>
    split at h <;> cases h
    case isTrue hpending => exact .turn hw (.pass (.stay hphase hpending)) (.inl rfl)
    case isFalse hpending => exact .retire hw (Nat.eq_zero_of_not_pos hpending) (.idle hphase)
  case h_2 t result hphase =>
    split at h <;> cases h
    case isTrue hpending => exact .turn hw (.pass (.remain hphase hpending)) (.inl rfl)
    case isFalse hpending => exact .retire hw (Nat.eq_zero_of_not_pos hpending) (.ending hphase)
  case h_3 => cases h

theorem step_of_move {m : Move ρ} (h : s.move? c m = some s') : Step c s (s.sights m) s' := by
  cases m with
  | enroll e =>
      rw [move?] at h
      split at h
      case isTrue => cases h
      case isFalse hopen =>
        cases h
        exact step_enroll (by simpa using hopen)
  | enqueue number => exact step_enqueue h
  | retire n => exact step_retire h
  | receive n =>
      obtain ⟨w, hw, h⟩ := exists_of_moveWorker h
      split at h <;> cases h
      case h_1 t rest hphase hqueue => exact .turn hw (.receive hphase hqueue) (.inl rfl)
  | tell n =>
      obtain ⟨w, hw, h⟩ := exists_of_moveWorker h
      split at h <;> cases h
      case h_1 t hphase => exact .turn hw (.tell hphase) (.inl rfl)
  | start n =>
      obtain ⟨w, hw, h⟩ := exists_of_moveWorker h
      split at h
      case h_1 t hphase =>
        split at h <;> cases h
        case isTrue hpermit =>
          simp only [sights, hw, Option.elim_some, hphase]
          exact .turn hw (.start hphase) (.inr hpermit)
      case h_2 => cases h
  | finish n result =>
      obtain ⟨w, hw, h⟩ := exists_of_moveWorker h
      split at h <;> cases h
      case h_1 t hphase =>
        simp only [sights, hw, Option.elim_some, hphase]
        refine .turn hw (.finish hphase ?_ ?_) (.inl ?_) <;> split <;> rfl
  | tire n =>
      obtain ⟨w, hw, h⟩ := exists_of_moveWorker h
      split at h
      case isTrue htired =>
        cases h
        simp only [Bool.and_eq_true, List.isEmpty_iff] at htired
        exact .turn hw (.pass (.tire (Phase.eq_listening htired.1) htired.2)) (.inl rfl)
      case isFalse => cases h
  | report n =>
      obtain ⟨w, hw, h⟩ := exists_of_moveWorker h
      split at h <;> cases h
      case h_1 t result retired hphase =>
        cases retired with
        | false => exact .turn hw (.pass (.report hphase)) (.inl rfl)
        | true => exact .turn hw (.pass (.rest hphase)) (.inl rfl)
  | close =>
      rw [move?] at h
      split at h
      case isTrue hquiet =>
        cases h
        simp only [Bool.and_eq_true, Option.isNone_iff_eq_none, List.isEmpty_iff] at hquiet
        exact .close hquiet.1 hquiet.2
      case isFalse => cases h
  | stop n =>
      obtain ⟨w, hw, h⟩ := exists_of_moveWorker h
      split at h
      case isTrue hidle =>
        cases h
        simp only [Bool.and_eq_true, List.isEmpty_iff] at hidle
        exact .stop hidle.1.1 hw (Phase.eq_listening hidle.1.2) hidle.2
      case isFalse => cases h

end State

end Newswire.Dispatch
