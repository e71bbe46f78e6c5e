import Mathlib.Data.List.Nodup
import Newswire.Proofs.Dispatch.Steps

/-!
# Accounts of events

What was seen so far tells which events a worker holds: those that came into the queue of its feed
and have not been handled.
-/

namespace Newswire.Dispatch

variable {ρ : Type} {log log' : List Sight} {feed : String} {stage : Stage} {t u : Ticket}

@[simp] theorem tickets_append :
    tickets stage (log ++ log') = tickets stage log ++ tickets stage log' := by
  rw [tickets, List.filter_append, List.map_append]
  rfl

@[simp] theorem tickets_singleton (x : Sight) :
    tickets stage [x] = if x.stage = stage then [x.ticket] else [] := by
  by_cases h : x.stage = stage <;> simp [tickets, h]

theorem mem_tickets : t ∈ tickets stage log ↔ ⟨stage, t⟩ ∈ log := by
  simp only [tickets, List.mem_map, List.mem_filter, decide_eq_true_eq]
  constructor
  · rintro ⟨x, ⟨hx, rfl⟩, rfl⟩
    exact hx
  · intro h
    exact ⟨_, ⟨h, rfl⟩, rfl⟩

@[simp] theorem ticketsOf_append :
    ticketsOf feed stage (log ++ log') = ticketsOf feed stage log ++ ticketsOf feed stage log' := by
  rw [ticketsOf, tickets_append, List.filter_append]
  rfl

theorem mem_ticketsOf :
    t ∈ ticketsOf feed stage log ↔ t ∈ tickets stage log ∧ t.event.feed = feed := by
  rw [ticketsOf, List.mem_filter, decide_eq_true_eq]

theorem ticketsOf_singleton (x : Sight) :
    ticketsOf feed stage [x] =
      if x.stage = stage ∧ x.ticket.event.feed = feed then [x.ticket] else [] := by
  rw [ticketsOf, tickets_singleton]
  by_cases hs : x.stage = stage <;> by_cases hf : x.ticket.event.feed = feed <;> simp [hs, hf]

/-- Of the events of a feed that were accepted, some have been handled and the others are held, and
of those that were started, all but those under way have been handled. -/
structure Tallies (log : List Sight) (feed : String) (held underWay : List Ticket) : Prop where
  accepted : ticketsOf feed .accepted log = ticketsOf feed .finished log ++ held
  started : ticketsOf feed .started log = ticketsOf feed .finished log ++ underWay

namespace Tallies

variable {held underWay : List Ticket}

theorem feed_of_mem (h : Tallies log feed held underWay) (ht : t ∈ held) : t.event.feed = feed := by
  have hmem : t ∈ ticketsOf feed .accepted log := h.accepted ▸ List.mem_append_right _ ht
  exact (mem_ticketsOf.mp hmem).2

theorem submit (h : Tallies log feed held underWay) (t : Ticket) :
    Tallies (log ++ [⟨.submitted, t⟩]) feed held underWay := by
  constructor
  · simpa [ticketsOf_singleton] using h.accepted
  · simpa [ticketsOf_singleton] using h.started

/-- What is seen of an event of another feed does not count. -/
theorem other (h : Tallies log feed held underWay) {sights : List Sight}
    (hother : ∀ x ∈ sights, x.ticket.event.feed ≠ feed) :
    Tallies (log ++ sights) feed held underWay := by
  have hnone (stage : Stage) : ticketsOf feed stage sights = [] := by
    rw [List.eq_nil_iff_forall_not_mem]
    intro t ht
    obtain ⟨hmem, hfeed⟩ := mem_ticketsOf.mp ht
    exact hother _ (mem_tickets.mp hmem) hfeed
  constructor
  · simpa [hnone] using h.accepted
  · simpa [hnone] using h.started

theorem accept (h : Tallies log feed held underWay) (ht : t.event.feed = feed) :
    Tallies (log ++ [⟨.accepted, t⟩]) feed (held ++ [t]) underWay := by
  constructor
  · simp [ticketsOf_singleton, ht, h.accepted]
  · simpa [ticketsOf_singleton] using h.started

end Tallies

theorem Phase.underWay_of_free {phase : Phase ρ} (h : phase.inHand = []) : phase.underWay = [] := by
  cases phase with
  | handling t => cases h
  | _ => rfl

theorem Phase.underWay_prefix (phase : Phase ρ) : phase.underWay <+: phase.inHand := by
  cases phase with
  | handling t => exact List.prefix_refl _
  | _ => exact List.nil_prefix

theorem Phase.isHandling_of_free {phase : Phase ρ} (h : phase.inHand = []) :
    phase.isHandling = false := by
  cases phase with
  | handling t => cases h
  | _ => rfl

theorem Phase.untold_of_free {phase : Phase ρ} (h : phase.inHand = []) : phase.untold = [] := by
  cases phase with
  | received t => cases h
  | _ => rfl

/-- A worker with an event in hand has not given its queue up. -/
theorem Worker.at_post {w : Worker ρ} (h : t ∈ w.phase.inHand) :
    w.post = some w.feed ∧ t ∈ w.held := by
  refine ⟨?_, List.mem_append_left _ h⟩
  rw [post]
  cases hphase : w.phase with
  | received t => rfl
  | waiting t => rfl
  | handling t => rfl
  | _ => rw [hphase] at h; cases h

namespace Worker.Turn

variable {w w' : Worker ρ} {sights : List Sight}

theorem post (h : w.Turn sights w') : w'.post = w.post := by
  have hgone : w'.phase.isGone = w.phase.isGone ∧ w'.feed = w.feed := by
    cases h with
    | receive hphase => exact ⟨by rw [hphase]; rfl, rfl⟩
    | tell hphase => exact ⟨by rw [hphase]; rfl, rfl⟩
    | start hphase => exact ⟨by rw [hphase]; rfl, rfl⟩
    | finish hphase _ hgone => exact ⟨hgone.trans (by rw [hphase]; rfl), rfl⟩
    | pass hpass => exact ⟨hpass.free.2.2, rfl⟩
  rw [Worker.post, Worker.post, hgone.1, hgone.2]

theorem not_seen (h : w.Turn sights w') :
    tickets .submitted sights = [] ∧ tickets .accepted sights = [] := by
  cases h <;> exact ⟨rfl, rfl⟩

/-- What is seen of a turn concerns an event that the worker holds. -/
theorem mem_held (h : w.Turn sights w') {x : Sight} (hx : x ∈ sights) :
    w.post = some w.feed ∧ x.ticket ∈ w.held := by
  cases h with
  | start hphase =>
      obtain rfl := List.mem_singleton.mp hx
      exact at_post (by rw [hphase]; exact .head _)
  | finish hphase =>
      obtain rfl := List.mem_singleton.mp hx
      exact at_post (by rw [hphase]; exact .head _)
  | _ => cases hx

/-- A worker takes the events from the front, starts what it has taken and ends what it has
started. -/
theorem tallies (h : w.Turn sights w') (ht : Tallies log feed w.held w.phase.underWay) :
    Tallies (log ++ sights) feed w'.held w'.phase.underWay := by
  cases h with
  | receive hphase hqueue =>
      rw [List.append_nil]
      simpa [held, hphase, hqueue, Phase.inHand, Phase.underWay] using ht
  | tell hphase =>
      rw [List.append_nil]
      simpa [held, hphase, Phase.inHand, Phase.underWay] using ht
  | start hphase =>
      have hfeed := ht.feed_of_mem (mem_held (.start hphase) (.head _)).2
      constructor
      · simpa [ticketsOf_singleton, held, hphase, Phase.inHand] using ht.accepted
      · have hstarted := ht.started
        simp only [hphase, Phase.underWay, List.append_nil] at hstarted
        simp [ticketsOf_singleton, hfeed, hstarted, Phase.underWay]
  | finish hphase hfree hgone =>
      have hfeed := ht.feed_of_mem (mem_held (.finish hphase hfree hgone) (.head _)).2
      have haccepted := ht.accepted
      have hstarted := ht.started
      simp only [held, hphase, Phase.inHand, Phase.underWay] at haccepted hstarted
      constructor
      · simp [ticketsOf_singleton, hfeed, haccepted, held, hfree]
      · simp [ticketsOf_singleton, hfeed, hstarted, Phase.underWay_of_free hfree]
  | pass hpass =>
      obtain ⟨hfree, hfree', -⟩ := hpass.free
      rw [List.append_nil]
      simpa [held, hfree, hfree', Phase.underWay_of_free] using ht

end Worker.Turn

/-- The number of pending events is that of the events on their way to a worker, of those in its
queue, and of the one it has taken without telling so. Whoever gives a queue up leaves it empty. -/
structure Worker.Fits (heading : List Ticket) (w : Worker ρ) : Prop where
  pending : w.pending = heading.length + w.queue.length + w.phase.untold.length
  left : w.phase.isGone = true → w.queue = []

/-- A new worker has one event on its way to it. -/
theorem Worker.fits_hired (feed : String) (t : Ticket) :
    Worker.Fits [t] ({ feed, pending := 1 } : Worker ρ) := ⟨rfl, nofun⟩

theorem Worker.Turn.fits {w w' : Worker ρ} {sights : List Sight} {heading : List Ticket}
    (h : w.Turn sights w') (hf : w.Fits heading) : w'.Fits heading := by
  obtain ⟨hpending, hleft⟩ := hf
  cases h with
  | receive hphase hqueue =>
      simp only [hphase, hqueue, Phase.untold, List.length_cons, List.length_nil] at hpending
      refine ⟨?_, nofun⟩
      simp only [Phase.untold, List.length_cons, List.length_nil]
      omega
  | tell hphase =>
      simp only [hphase, Phase.untold, List.length_cons, List.length_nil] at hpending
      refine ⟨?_, nofun⟩
      simp only [Phase.untold, List.length_nil]
      omega
  | start hphase =>
      rw [hphase] at hpending
      exact ⟨hpending, nofun⟩
  | finish hphase hfree hgone =>
      rw [hphase] at hpending
      refine ⟨?_, fun h => by rw [hgone] at h; cases h⟩
      rw [Phase.untold_of_free hfree]
      exact hpending
  | pass hpass =>
      obtain ⟨hfree, hfree', hgone⟩ := hpass.free
      refine ⟨?_, fun h => hleft (hgone ▸ h)⟩
      rw [Phase.untold_of_free hfree] at hpending
      rw [Phase.untold_of_free hfree']
      exact hpending

/-- The events of each feed are accounted for by its worker. Where it has none, all are handled. -/
structure Accounts (log : List Sight) (workers : List (Worker ρ)) : Prop where
  tallied {n : Nat} {w : Worker ρ} {feed : String} : workers[n]? = some w →
    w.post = some feed → Tallies log feed w.held w.phase.underWay
  settled {feed : String} : some feed ∉ workers.map Worker.post → Tallies log feed [] []

/-- No feed has two workers. -/
def Apart (roster : List (Option String)) : Prop :=
  ∀ (n m : Nat) (feed : String), roster[n]? = some (some feed) →
    roster[m]? = some (some feed) → n = m

theorem getElem?_set_cases {α : Type} {l : List α} {a b : α} {n m : Nat}
    (h : (l.set n a)[m]? = some b) : m = n ∧ b = a ∨ m ≠ n ∧ l[m]? = some b := by
  rw [List.getElem?_set] at h
  split at h
  case isTrue hnm =>
    split at h
    case isTrue => exact .inl ⟨hnm.symm, (Option.some.inj h).symm⟩
    case isFalse => cases h
  case isFalse hnm => exact .inr ⟨Ne.symm hnm, h⟩

theorem getElem?_concat_cases {α : Type} {l : List α} {a b : α} {m : Nat}
    (h : (l ++ [a])[m]? = some b) : l[m]? = some b ∨ m = l.length ∧ b = a := by
  rw [List.getElem?_append] at h
  split at h
  case isTrue => exact .inl h
  case isFalse hm =>
    obtain ⟨hlt, heq⟩ := List.getElem?_eq_some_iff.mp h
    rw [List.length_singleton] at hlt
    refine .inr ⟨by omega, ?_⟩
    simpa using heq.symm

section Roster

variable {workers : List (Worker ρ)} {n m : Nat} {w w' : Worker ρ}

theorem getElem?_roster (h : workers[n]? = some w) :
    (workers.map Worker.post)[n]? = some w.post := by
  rw [List.getElem?_map, h]
  rfl

theorem exists_of_mem_roster (h : some feed ∈ workers.map Worker.post) :
    ∃ (n : Nat) (w : Worker ρ), workers[n]? = some w ∧ w.post = some feed := by
  obtain ⟨w, hw, hpost⟩ := List.mem_map.mp h
  obtain ⟨n, hn⟩ := List.mem_iff_getElem?.mp hw
  exact ⟨n, w, hn, hpost⟩

theorem roster_set (hw : workers[n]? = some w) (hpost : w'.post = w.post) :
    (workers.set n w').map Worker.post = workers.map Worker.post := by
  obtain ⟨hlt, hget⟩ := List.getElem?_eq_some_iff.mp (getElem?_roster hw)
  rw [List.map_set, hpost, ← hget, List.set_getElem_self]

end Roster

namespace Accounts

variable {workers : List (Worker ρ)} {n : Nat} {w w' : Worker ρ}

/-- A change to one worker leaves the accounts of other feeds as they are. -/
theorem set (h : Accounts log workers) (hapart : Apart (workers.map Worker.post))
    (hw : workers[n]? = some w) (hpost : w'.post = w.post)
    (hothers : ∀ feed held underWay, w.post ≠ some feed → Tallies log feed held underWay →
      Tallies log' feed held underWay)
    (hmine : ∀ feed, w.post = some feed → Tallies log feed w.held w.phase.underWay →
      Tallies log' feed w'.held w'.phase.underWay) :
    Accounts log' (workers.set n w') where
  tallied {m v feed} hv hfeed := by
    obtain ⟨rfl, rfl⟩ | ⟨hm, hv⟩ := getElem?_set_cases hv
    · rw [hpost] at hfeed
      exact hmine feed hfeed (h.tallied hw hfeed)
    · apply hothers feed _ _ _ (h.tallied hv hfeed)
      intro he
      apply hm
      exact hapart m n feed (hfeed ▸ getElem?_roster hv) (he ▸ getElem?_roster hw)
  settled {feed} hfeed := by
    rw [roster_set hw hpost] at hfeed
    apply hothers feed _ _ _ (h.settled hfeed)
    intro he
    apply hfeed
    exact List.mem_of_getElem? (he ▸ getElem?_roster hw)

/-- A worker that holds nothing can go. -/
theorem leave (h : Accounts log workers) (hw : workers[n]? = some w) (hheld : w.held = [])
    (hpost : w'.post = none) : Accounts log (workers.set n w') where
  tallied {m v feed} hv hfeed := by
    obtain ⟨rfl, rfl⟩ | ⟨hm, hv⟩ := getElem?_set_cases hv
    · rw [hpost] at hfeed
      cases hfeed
    · exact h.tallied hv hfeed
  settled {feed} hfeed := by
    by_cases hmine : w.post = some feed
    · have htallied := h.tallied hw hmine
      rwa [hheld, Phase.underWay_of_free (List.append_eq_nil_iff.mp hheld).1] at htallied
    · apply h.settled
      intro hmem
      apply hfeed
      obtain ⟨m, hm⟩ := List.mem_iff_getElem?.mp hmem
      have hne : n ≠ m := by
        rintro rfl
        rw [getElem?_roster hw] at hm
        exact hmine (Option.some.inj hm)
      rw [List.map_set]
      exact List.mem_of_getElem? ((List.getElem?_set_ne hne).trans hm)

theorem submit (h : Accounts log workers) (t : Ticket) :
    Accounts (log ++ [⟨.submitted, t⟩]) workers where
  tallied hw hfeed := (h.tallied hw hfeed).submit t
  settled hfeed := (h.settled hfeed).submit t

/-- A feed without a worker has nothing left to handle, so that a new worker starts with nothing. -/
theorem hire (h : Accounts log workers) (hheld : w.held = [])
    (hfeed : ∀ feed, w.post = some feed → some feed ∉ workers.map Worker.post) :
    Accounts log (workers ++ [w]) where
  tallied {m v feed} hv hpost := by
    obtain hv | ⟨-, rfl⟩ := getElem?_concat_cases hv
    · exact h.tallied hv hpost
    · rw [hheld, Phase.underWay_of_free (List.append_eq_nil_iff.mp hheld).1]
      exact h.settled (hfeed feed hpost)
  settled {feed} hnone := by
    apply h.settled
    intro hmem
    apply hnone
    rw [List.map_append]
    exact List.mem_append_left _ hmem

/-- The events of a feed are started and handled in the order in which they were accepted. -/
theorem inOrder (h : Accounts log workers) (feed : String) :
    ticketsOf feed .finished log <+: ticketsOf feed .started log ∧
      ticketsOf feed .started log <+: ticketsOf feed .accepted log := by
  by_cases hfeed : some feed ∈ workers.map Worker.post
  · obtain ⟨n, w, hw, hpost⟩ := exists_of_mem_roster hfeed
    obtain ⟨haccepted, hstarted⟩ := h.tallied hw hpost
    rw [haccepted, hstarted]
    constructor
    · exact List.prefix_append _ _
    · rw [List.prefix_append_right_inj]
      exact w.phase.underWay_prefix.trans (List.prefix_append _ _)
  · obtain ⟨haccepted, hstarted⟩ := h.settled hfeed
    rw [haccepted, hstarted]
    constructor
    · exact List.prefix_append _ _
    · exact List.prefix_refl _

theorem accepted_of_started (h : Accounts log workers) (ht : t ∈ tickets .started log) :
    t ∈ tickets .accepted log := by
  have hmem : t ∈ ticketsOf t.event.feed .started log := mem_ticketsOf.mpr ⟨ht, rfl⟩
  exact (mem_ticketsOf.mp ((h.inOrder t.event.feed).2.subset hmem)).1

end Accounts

end Newswire.Dispatch
