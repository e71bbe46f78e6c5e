import Newswire.Proofs.Dispatch.Steps

/-!
# Results that are owed

A worker that has handled an event owes its result until it has reported it. When the event was the
end of its feed, the worker gives its queue up before it reports, if it can. To what is seen of the
events, a trace adds their results, and when they were reported.
-/

namespace Newswire.Dispatch

variable {ρ : Type}

/-- Something that happens to an event. -/
inductive Mark (ρ : Type) where
  /-- It is seen to come to a stage at which it has no result. -/
  | came (x : Sight)
  | finished (t : Ticket) (result : ρ)
  /-- The worker that has handled it gives its queue up. -/
  | retired (t : Ticket)
  | reported (t : Ticket) (result : ρ)

/-- What is seen of the events in a trace. -/
def sightsOf (trace : List (Mark ρ)) : List Sight :=
  trace.filterMap fun
    | .came x => some x
    | .finished t _ => some ⟨.finished, t⟩
    | _ => none

/-- The events that were handled, with their results. -/
def finishes (trace : List (Mark ρ)) : List (Ticket × ρ) :=
  trace.filterMap fun
    | .finished t result => some (t, result)
    | _ => none

/-- The events whose results were reported, with these results. -/
def reports (trace : List (Mark ρ)) : List (Ticket × ρ) :=
  trace.filterMap fun
    | .reported t result => some (t, result)
    | _ => none

section Traces

variable {trace new : List (Mark ρ)} {sights : List Sight}

@[simp] theorem sightsOf_append : sightsOf (trace ++ new) = sightsOf trace ++ sightsOf new :=
  List.filterMap_append

@[simp] theorem finishes_append : finishes (trace ++ new) = finishes trace ++ finishes new :=
  List.filterMap_append

@[simp] theorem reports_append : reports (trace ++ new) = reports trace ++ reports new :=
  List.filterMap_append

@[simp] theorem sightsOf_came : sightsOf (sights.map (.came : Sight → Mark ρ)) = sights := by
  rw [sightsOf, List.filterMap_map]
  exact List.filterMap_some

@[simp] theorem reports_came : reports (sights.map (.came : Sight → Mark ρ)) = [] := by
  rw [reports, List.filterMap_map]
  exact List.filterMap_eq_nil_iff.mpr fun _ _ => rfl

@[simp] theorem finishes_came : finishes (sights.map (.came : Sight → Mark ρ)) = [] := by
  rw [finishes, List.filterMap_map]
  exact List.filterMap_eq_nil_iff.mpr fun _ _ => rfl

theorem mem_reports {t : Ticket} {result : ρ} :
    (t, result) ∈ reports trace ↔ .reported t result ∈ trace := by
  rw [reports, List.mem_filterMap]
  constructor
  · rintro ⟨m, hm, hr⟩
    split at hr <;> cases hr
    exact hm
  · exact fun h => ⟨_, h, rfl⟩

end Traces

/-- How a worker stands that owes a result. -/
inductive Standing where
  /-- It will give its queue up if it can. -/
  | ending
  | staying
  /-- It has given its queue up. -/
  | gone
  deriving DecidableEq

/-- A result that a worker of the feed owes. -/
structure Due (ρ : Type) where
  feed : String
  ticket : Ticket
  result : ρ
  standing : Standing

/-- The standing of a worker once it has handled an event. -/
def standingAfter (t : Ticket) : Standing := if t.event.isEnd then .ending else .staying

theorem standingAfter_ne_gone (t : Ticket) : standingAfter t ≠ .gone := by
  rw [standingAfter]
  split <;> simp

def Phase.due? (feed : String) : Phase ρ → Option (Due ρ)
  | ending t result => some ⟨feed, t, result, .ending⟩
  | reporting t result retired => some ⟨feed, t, result, if retired then .gone else .staying⟩
  | _ => none

def Worker.due? (w : Worker ρ) : Option (Due ρ) := w.phase.due? w.feed

theorem Worker.due?_eq_none {w : Worker ρ} {phase : Phase ρ} (h : w.phase = phase)
    (hnone : phase.due? w.feed = none) : w.due? = none := by
  rw [due?, h, hnone]

/-- Whoever owes a result has no event in hand, and a worker that has given its queue up is gone. -/
theorem Worker.of_due {w : Worker ρ} {d : Due ρ} (h : w.due? = some d) :
    d.feed = w.feed ∧ w.phase.inHand = [] ∧ (w.phase.isGone = true ↔ d.standing = .gone) := by
  rw [due?] at h
  cases hphase : w.phase with
  | ending t result =>
      rw [hphase] at h
      cases h
      exact ⟨rfl, rfl, by simp [Phase.isGone]⟩
  | reporting t result retired =>
      rw [hphase] at h
      cases h
      exact ⟨rfl, rfl, by cases retired <;> simp [Phase.isGone]⟩
  | _ =>
      rw [hphase] at h
      cases h

namespace State

variable {s s' : State ρ} {n : Nat} {w w' : Worker ρ}

/-- The results that are owed. -/
def dues (s : State ρ) : List (Due ρ) := s.workers.filterMap Worker.due?

theorem exists_of_mem_dues {d : Due ρ} (h : d ∈ s.dues) :
    ∃ (n : Nat) (w : Worker ρ), s.workers[n]? = some w ∧ w.due? = some d := by
  obtain ⟨w, hw, hd⟩ := List.mem_filterMap.mp h
  obtain ⟨n, hn⟩ := List.mem_iff_getElem?.mp hw
  exact ⟨n, w, hn, hd⟩

/-- A change to one worker changes what that worker owes. -/
theorem dues_set (s' : State ρ) (hw : s.workers[n]? = some w)
    (hset : s'.workers = s.workers.set n w') :
    ∃ rest, s.dues.Perm (w.due?.toList ++ rest) ∧ s'.dues.Perm (w'.due?.toList ++ rest) := by
  obtain ⟨hlt, rfl⟩ := List.getElem?_eq_some_iff.mp hw
  obtain ⟨before, after, hworkers, -, hworkers'⟩ := @List.exists_of_set _ _ w' _ hlt
  have hdues (v : Worker ρ) : ((before ++ v :: after).filterMap Worker.due?).Perm
      (v.due?.toList ++ (before ++ after).filterMap Worker.due?) := by
    refine (List.perm_middle.filterMap Worker.due?).trans (List.Perm.of_eq ?_)
    rw [List.filterMap_cons]
    cases v.due? <;> rfl
  refine ⟨(before ++ after).filterMap Worker.due?, ?_, ?_⟩
  · have hv := hdues s.workers[n]
    rwa [← hworkers] at hv
  · rw [dues, hset, hworkers']
    exact hdues w'

theorem dues_modify {f : Worker ρ → Worker ρ} (hf : ∀ w, (f w).due? = w.due?)
    (workers : List (Worker ρ)) (n : Nat) :
    (workers.modify n f).filterMap Worker.due? = workers.filterMap Worker.due? := by
  induction workers generalizing n with
  | nil => rw [List.modify_nil]
  | cons w rest ih =>
      cases n with
      | zero => rw [List.modify_zero_cons, List.filterMap_cons, List.filterMap_cons, hf]
      | succ n => rw [List.modify_succ_cons, List.filterMap_cons, List.filterMap_cons, ih]

/-- What happens to events in a move that is possible. -/
def marks (s : State ρ) : Move ρ → List (Mark ρ)
  | .finish n result => (s.sights (.finish n result)).map fun x => .finished x.ticket result
  | .retire n =>
    (s.workers[n]?).elim [] fun w =>
      match w.phase with
      | .ending t _ => if 0 < w.pending then [] else [.retired t]
      | _ => []
  | .report n =>
    (s.workers[n]?).elim [] fun w =>
      match w.phase with
      | .reporting t result _ => [.reported t result]
      | _ => []
  | m => (s.sights m).map .came

/-- What happens to events while moves are made one after the other. -/
def trace (c : Settings.Dispatch) : State ρ → List (Move ρ) → List (Mark ρ)
  | _, [] => []
  | s, m :: rest =>
    match s.move? c m with
    | some next => s.marks m ++ next.trace c rest
    | none => []

theorem sightsOf_marks (s : State ρ) (m : Move ρ) : sightsOf (s.marks m) = s.sights m := by
  cases m with
  | finish n result =>
      rw [marks, sights]
      rcases s.workers[n]? with _ | w
      · rfl
      · rcases w with ⟨feed, queue, pending, phase⟩
        cases phase <;> rfl
  | retire n =>
      rw [marks]
      rcases s.workers[n]? with _ | ⟨feed, queue, pending, phase⟩
      · rfl
      · cases phase with
        | ending t result =>
            dsimp only [Option.elim_some]
            split <;> rfl
        | _ => rfl
  | report n =>
      rw [marks]
      rcases s.workers[n]? with _ | ⟨feed, queue, pending, phase⟩
      · rfl
      · cases phase <;> rfl
  | _ => exact sightsOf_came

/-- A trace tells what was seen. -/
theorem sightsOf_trace (c : Settings.Dispatch) (s : State ρ) (moves : List (Move ρ)) :
    sightsOf (s.trace c moves) = s.seen c moves := by
  induction moves generalizing s with
  | nil => rfl
  | cons m rest ih =>
      rw [trace, seen]
      cases s.move? c m with
      | none => rfl
      | some next => rw [sightsOf_append, sightsOf_marks, ih]

end State

/-- What a move does to the results that are owed. -/
inductive Settles (s s' : State ρ) : List (Mark ρ) → Prop where
  | quiet {sights : List Sight} (hfinished : ∀ x ∈ sights, x.stage ≠ .finished)
      (hdues : s'.dues.Perm s.dues) (hresults : s'.results = s.results) :
      Settles s s' (sights.map .came)
  | finish {n : Nat} {w : Worker ρ} {t : Ticket} {result : ρ} (hw : s.workers[n]? = some w)
      (hphase : w.phase = .handling t)
      (hdues : s'.dues.Perm (⟨w.feed, t, result, standingAfter t⟩ :: s.dues))
      (hresults : s'.results = s.results) : Settles s s' [.finished t result]
  | remain {d : Due ρ} {rest : List (Due ρ)} (hdues : s.dues.Perm (d :: rest))
      (hstanding : d.standing = .ending)
      (hdues' : s'.dues.Perm ({ d with standing := .staying } :: rest))
      (hresults : s'.results = s.results) : Settles s s' []
  | retire {n : Nat} {w : Worker ρ} {t : Ticket} {result : ρ} {rest : List (Due ρ)}
      (hw : s.workers[n]? = some w) (hphase : w.phase = .ending t result) (hpending : w.pending = 0)
      (hdues : s.dues.Perm (⟨w.feed, t, result, .ending⟩ :: rest))
      (hdues' : s'.dues.Perm (⟨w.feed, t, result, .gone⟩ :: rest))
      (hresults : s'.results = s.results) : Settles s s' [.retired t]
  | report {d : Due ρ} {rest : List (Due ρ)} (hdues : s.dues.Perm (d :: rest))
      (hdues' : s'.dues.Perm rest) (hresults : s'.results = s.results ++ [⟨d.feed, d.result⟩]) :
      Settles s s' [.reported d.ticket d.result]

namespace State

variable {c : Settings.Dispatch} {s s' : State ρ} {n : Nat} {w w' : Worker ρ}

/-- A turn of a worker that changes nothing about what it owes. -/
theorem settles_of_set {sights : List Sight} (hw : s.workers[n]? = some w)
    (hset : s'.workers = s.workers.set n w') (hdue : w'.due? = w.due?)
    (hfinished : ∀ x ∈ sights, x.stage ≠ .finished) (hresults : s'.results = s.results) :
    Settles s s' (sights.map .came) := by
  obtain ⟨rest, hdues, hdues'⟩ := dues_set s' hw hset
  rw [hdue] at hdues'
  exact .quiet hfinished (hdues'.trans hdues.symm) hresults

theorem settles_enroll (s : State ρ) (e : Event.Input) :
    Settles s (s.enroll e) (s.marks (.enroll e)) := by
  refine .quiet (fun x hx => ?_) ?_ ?_
  · obtain rfl := List.mem_singleton.mp hx
    simp
  · rw [enroll]
    dsimp only
    split
    · refine .of_eq (dues_modify (f := fun w => { w with pending := w.pending + 1 }) ?_ ..)
      exact fun _ => rfl
    · refine .of_eq ?_
      rw [dues, List.filterMap_append]
      exact List.append_nil _
  · rw [enroll]
    dsimp only
    split <;> rfl

theorem settles_enqueue {number : Nat} (h : s.enqueue? c.capacity number = some s') :
    Settles s s' (s.marks (.enqueue number)) := by
  have hfinished : ∀ x ∈ s.sights (.enqueue number), x.stage ≠ .finished := by
    intro x hx
    rw [sights] at hx
    split at hx
    · split at hx
      · cases hx
      · obtain rfl := List.mem_singleton.mp hx
        simp
    · cases hx
  rw [enqueue?] at h
  split at h
  · cases h
  · obtain ⟨w, hw, h⟩ := exists_of_moveWorker h
    dsimp only at h
    split at h
    · cases h
      exact settles_of_set hw rfl rfl hfinished rfl
    · split at h <;> cases h
      exact settles_of_set hw rfl rfl hfinished rfl

theorem settles_retire (h : s.retire? n = some s') : Settles s s' (s.marks (.retire n)) := by
  obtain ⟨w, hw, h⟩ := exists_of_moveWorker h
  rw [marks, hw, Option.elim_some]
  split at h
  case h_1 hphase =>
    have hnone := Worker.due?_eq_none hphase rfl
    rw [hphase]
    change Settles s s' ([].map .came)
    split at h <;> cases h <;> exact settles_of_set hw rfl hnone.symm (List.forall_mem_nil _) rfl
  case h_2 t result hphase =>
    have hdue : w.due? = some ⟨w.feed, t, result, .ending⟩ := by rw [Worker.due?, hphase]; rfl
    split at h <;> cases h <;> rw [hphase]
    case isTrue hpending =>
      obtain ⟨rest, hdues, hdues'⟩ := dues_set (s.setWorker n _) hw rfl
      rw [hdue] at hdues
      dsimp only
      rw [if_pos hpending]
      exact .remain hdues rfl hdues' rfl
    case isFalse hpending =>
      obtain ⟨rest, hdues, hdues'⟩ := dues_set ((s.dropQueue n).setWorker n _) hw rfl
      rw [hdue] at hdues
      dsimp only
      rw [if_neg hpending]
      exact .retire hw hphase (Nat.eq_zero_of_not_pos hpending) hdues hdues' rfl
  case h_3 => cases h

theorem settles_of_move {m : Move ρ} (h : s.move? c m = some s') : Settles s s' (s.marks m) := by
  cases m with
  | enroll e =>
      rw [move?] at h
      split at h <;> cases h
      exact settles_enroll s e
  | enqueue number => exact settles_enqueue h
  | retire n => exact settles_retire h
  | receive n =>
      obtain ⟨w, hw, h⟩ := exists_of_moveWorker h
      split at h <;> cases h
      case h_1 t rest hphase hqueue =>
        exact settles_of_set hw rfl (Worker.due?_eq_none hphase rfl).symm (List.forall_mem_nil _) rfl
  | tell n =>
      obtain ⟨w, hw, h⟩ := exists_of_moveWorker h
      split at h <;> cases h
      case h_1 t hphase =>
        exact settles_of_set hw rfl (Worker.due?_eq_none hphase rfl).symm (List.forall_mem_nil _) rfl
  | start n =>
      obtain ⟨w, hw, h⟩ := exists_of_moveWorker h
      split at h
      case h_1 t hphase =>
        split at h <;> cases h
        refine settles_of_set hw rfl (Worker.due?_eq_none hphase rfl).symm (fun x hx => ?_) rfl
        rw [sights, hw, Option.elim_some, hphase] at hx
        obtain rfl := List.mem_singleton.mp hx
        simp
      case h_2 => cases h
  | finish n result =>
      obtain ⟨w, hw, h⟩ := exists_of_moveWorker h
      split at h <;> cases h
      case h_1 t hphase =>
        obtain ⟨rest, hdues, hdues'⟩ := dues_set (s.setWorker n _) hw rfl
        rw [Worker.due?_eq_none hphase rfl] at hdues
        rw [marks, sights, hw, Option.elim_some, hphase]
        refine .finish hw hphase ?_ rfl
        refine hdues'.trans (List.Perm.trans (.of_eq ?_) (hdues.symm.cons _))
        rw [Worker.due?, standingAfter]
        split <;> rfl
  | tire n =>
      obtain ⟨w, hw, h⟩ := exists_of_moveWorker h
      split at h
      case isTrue htired =>
        cases h
        simp only [Bool.and_eq_true, List.isEmpty_iff] at htired
        have hnone := Worker.due?_eq_none (Phase.eq_listening htired.1) rfl
        exact settles_of_set hw rfl hnone.symm (List.forall_mem_nil _) rfl
      case isFalse => cases h
  | report n =>
      obtain ⟨w, hw, h⟩ := exists_of_moveWorker h
      split at h <;> cases h
      case h_1 t result retired hphase =>
        obtain ⟨rest, hdues, hdues'⟩ := dues_set (s.setWorker n _) hw rfl
        rw [Worker.due?, hphase] at hdues
        rw [marks, hw, Option.elim_some, hphase]
        refine .report hdues (hdues'.trans (.of_eq ?_)) rfl
        cases retired <;> rfl
  | close =>
      rw [move?] at h
      split at h <;> cases h
      exact .quiet (List.forall_mem_nil _) (.refl _) rfl
  | stop n =>
      obtain ⟨w, hw, h⟩ := exists_of_moveWorker h
      split at h
      case isTrue hidle =>
        cases h
        simp only [Bool.and_eq_true, List.isEmpty_iff] at hidle
        have hnone := Worker.due?_eq_none (Phase.eq_listening hidle.1.2) rfl
        exact settles_of_set hw rfl hnone.symm (List.forall_mem_nil _) rfl
      case isFalse => cases h

end State

end Newswire.Dispatch
