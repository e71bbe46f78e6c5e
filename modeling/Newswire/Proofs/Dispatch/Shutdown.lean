import Newswire.Proofs.Dispatch.Histories

/-!
# The end of the work

Once no more events are accepted, only so many moves are left, and as long as a worker that is
waited for has not stopped, one of them is possible.
-/

namespace Newswire.Dispatch

variable {ρ : Type}

/-- A bound on the turns that a worker has left with the event in hand, or without one. To wait in
vain takes a turn more when there are events in the queue. -/
def Phase.turnsLeft (queue : List Ticket) : Phase ρ → Nat
  | received _ => 7
  | waiting _ => 6
  | handling _ => 5
  | ending _ _ => 4
  | reporting _ _ _ => 3
  | listening => 2
  | idle => if queue.isEmpty then 1 else 3
  | stopped => 0

theorem Phase.turnsLeft_of_free {phase : Phase ρ} (h : phase.inHand = []) (queue : List Ticket) :
    phase.turnsLeft queue ≤ 4 := by
  cases phase with
  | received t => cases h
  | waiting t => cases h
  | handling t => cases h
  | idle =>
      rw [turnsLeft]
      split <;> decide
  | ending t result => exact Nat.le_refl _
  | _ => exact Nat.le_of_ble_eq_true rfl

namespace Worker

/-- A bound on the turns that a worker has left when no event comes any more. -/
def work (w : Worker ρ) : Nat := 7 * w.queue.length + w.phase.turnsLeft w.queue

variable {w w' : Worker ρ} {phase : Phase ρ} {sights : List Sight}

theorem Pass.work_lt (h : w.Pass phase) (hf : w.Fits []) : work { w with phase } < w.work := by
  refine Nat.add_lt_add_left ?_ _
  cases h with
  | tire hphase hqueue =>
      rw [hphase, hqueue]
      exact Nat.lt_add_one _
  | stay hphase hpending =>
      have hqueue : w.queue ≠ [] := by
        intro hqueue
        rw [hf.pending, hphase, hqueue] at hpending
        cases hpending
      rw [hphase, Phase.turnsLeft, Phase.turnsLeft, if_neg (by simpa using hqueue)]
      decide
  | remain hphase => rw [hphase]; exact Nat.lt_add_one _
  | report hphase => rw [hphase]; exact Nat.lt_add_one _
  | rest hphase => rw [hphase]; exact Nat.zero_lt_succ _

theorem Turn.work_lt (h : w.Turn sights w') (hf : w.Fits []) : w'.work < w.work := by
  cases h with
  | receive hphase hqueue =>
      rw [work, work, hphase, hqueue, List.length_cons]
      dsimp only [Phase.turnsLeft]
      omega
  | tell hphase => rw [work, work, hphase]; exact Nat.lt_add_one _
  | start hphase => rw [work, work, hphase]; exact Nat.lt_add_one _
  | finish hphase hfree =>
      rw [work, work, hphase]
      exact Nat.add_lt_add_left (Nat.lt_succ_of_le (Phase.turnsLeft_of_free hfree _)) _
  | pass hpass => exact hpass.work_lt hf

theorem Leave.work_lt (h : w.Leave phase) : work { w with phase } < w.work := by
  refine Nat.add_lt_add_left ?_ _
  cases h with
  | idle hphase =>
      rw [hphase, Phase.turnsLeft, Phase.turnsLeft]
      split <;> decide
  | ending hphase => rw [hphase]; exact Nat.lt_add_one _

end Worker

/-- A bound on the moves that are left when no event comes any more. -/
def State.work (s : State ρ) : Nat := s.workers.foldr (fun w rest => w.work + rest) 0

theorem work_set_lt {workers : List (Worker ρ)} {n : Nat} {w w' : Worker ρ}
    (hw : workers[n]? = some w) (h : w'.work < w.work) :
    (workers.set n w').foldr (fun w rest => w.work + rest) 0 <
      workers.foldr (fun w rest => w.work + rest) 0 := by
  induction workers generalizing n with
  | nil => cases hw
  | cons v rest ih =>
      cases n with
      | zero =>
          obtain rfl := Option.some.inj hw
          exact Nat.add_lt_add_right h _
      | succ n => exact Nat.add_lt_add_left (ih hw) _

theorem State.finish_isSome {c : Settings.Dispatch} {s : State ρ} {n : Nat} {w : Worker ρ}
    {result : ρ} (hw : s.workers[n]? = some w) (h : w.phase.isHandling = true) :
    (s.move? c (.finish n result)).isSome = true := by
  cases hphase : w.phase with
  | handling t => simp [move?, moveWorker?, hw, hphase]
  | _ => rw [hphase] at h; cases h

section Closed

variable {c : Settings.Dispatch} {log sights : List Sight} {s s' : State ρ}

/-- Every move takes away from the work that is left. -/
theorem Sound.work_lt (h : Sound c log s) (hclosed : s.awaited.isSome = true)
    (hstep : Step c s sights s') : s'.work < s.work ∧ s'.awaited = s.awaited := by
  have hempty := h.quiet hclosed
  cases hstep with
  | join hopen => rw [hopen] at hclosed; cases hclosed
  | hire hopen => rw [hopen] at hclosed; cases hclosed
  | close hopen => rw [hopen] at hclosed; cases hclosed
  | arrive hfind => rw [hempty] at hfind; cases hfind
  | refuse ht => rw [hempty] at ht; cases ht
  | turn hw hturn =>
      have hfits := h.fits hw
      rw [hempty] at hfits
      exact ⟨work_set_lt hw (hturn.work_lt hfits), rfl⟩
  | retire hw _ hleave => exact ⟨work_set_lt hw hleave.work_lt, rfl⟩
  | stop _ hw hphase hqueue =>
      refine ⟨work_set_lt hw (Nat.add_lt_add_left ?_ _), rfl⟩
      rw [hphase]
      exact Nat.zero_lt_succ _

theorem Sound.length_le_work {more : List (Move ρ)} (h : Sound c log s)
    (hclosed : s.awaited.isSome = true) (hmore : State.moveAll? c s more = some s') :
    more.length + s'.work ≤ s.work ∧ s'.awaited.isSome = true := by
  induction more generalizing log s with
  | nil =>
      obtain rfl := Option.some.inj hmore
      exact ⟨Nat.le_of_eq (Nat.zero_add _), hclosed⟩
  | cons m rest ih =>
      obtain ⟨next, hm, hrest⟩ := Option.bind_eq_some_iff.mp hmore
      have hstep := State.step_of_move hm
      obtain ⟨hless, hawaited⟩ := h.work_lt hclosed hstep
      obtain ⟨hwork, hclosed'⟩ := ih (h.step hstep) (hawaited ▸ hclosed) hrest
      refine ⟨?_, hclosed'⟩
      rw [List.length_cons]
      omega

open State in
/-- A worker that is waited for can make a move, or another one has to come to the end of an
event first. -/
theorem exists_move [Inhabited ρ] (hclosed : s.awaited.isSome = true) (hup : s.isDown = false) :
    ∃ m, (s.move? c m).isSome = true := by
  obtain ⟨ns, hns⟩ := Option.isSome_iff_exists.mp hclosed
  rw [isDown, hns] at hup
  obtain ⟨n, -, hn⟩ := List.all_eq_false.mp hup
  rcases hw : s.workers[n]? with _ | w
  · simp [hasStopped, hw] at hn
  cases hphase : w.phase with
  | listening =>
      cases hqueue : w.queue with
      | nil =>
          refine ⟨.stop n, ?_⟩
          simp [move?, moveWorker?, hw, hphase, hqueue, hclosed, Phase.isListening]
      | cons t rest => exact ⟨.receive n, by simp [move?, moveWorker?, hw, hphase, hqueue]⟩
  | idle =>
      refine ⟨.retire n, ?_⟩
      simp only [move?, retire?, moveWorker?, hw, Option.bind_some, hphase]
      split <;> rfl
  | received t => exact ⟨.tell n, by simp [move?, moveWorker?, hw, hphase]⟩
  | waiting t =>
      by_cases hpermit : s.handled < max c.maxFeeds 1
      · exact ⟨.start n, by simp [move?, moveWorker?, hw, hphase, hpermit]⟩
      · have hbusy : 0 < s.handled := by omega
        obtain ⟨v, hv⟩ := List.exists_mem_of_length_pos hbusy
        obtain ⟨hv, hhandling⟩ := List.mem_filter.mp hv
        obtain ⟨m, hm⟩ := List.mem_iff_getElem?.mp hv
        exact ⟨.finish m default, finish_isSome hm hhandling⟩
  | handling t => exact ⟨.finish n default, finish_isSome hw (by rw [hphase]; rfl)⟩
  | ending t result =>
      refine ⟨.retire n, ?_⟩
      simp only [move?, retire?, moveWorker?, hw, Option.bind_some, hphase]
      split <;> rfl
  | reporting t result retired => exact ⟨.report n, by simp [move?, moveWorker?, hw, hphase]⟩
  | stopped => simp [hasStopped, hw, hphase, Phase.isStopped] at hn

end Closed

/-- When no more events are accepted, the work comes to its end whatever moves are made: there are
only so many, and there is one until the last worker has stopped. -/
theorem shutdown_ends [Inhabited ρ] {c : Settings.Dispatch} {moves more : List (Move ρ)}
    {s s' : State ρ} (h : State.moveAll? c {} moves = some s) (hclosed : s.awaited.isSome = true)
    (hmore : State.moveAll? c s more = some s') :
    more.length ≤ s.work ∧ (s'.isDown = true ∨ ∃ m, (s'.move? c m).isSome = true) := by
  obtain ⟨hwork, hclosed'⟩ := (Sound.start.run h).length_le_work hclosed hmore
  refine ⟨Nat.le_trans (Nat.le_add_right _ _) hwork, ?_⟩
  cases hdown : s'.isDown with
  | true => exact .inl rfl
  | false => exact .inr (exists_move hclosed' hdown)

end Newswire.Dispatch
