import Newswire.Proofs.Dispatch.Order

/-!
# Histories of moves

What holds of all states that are reached from the start, given what was seen on the way, and what
follows for the events: each of them is handled once, in its turn, and by one worker at a time.
-/

namespace Newswire.Dispatch

variable {ρ : Type}

/-- The events on their way to a worker. -/
def headed (travelling : List (Ticket × Nat)) (n : Nat) : List Ticket :=
  (travelling.filter (·.2 = n)).map (·.1)

theorem headed_append (l l' : List (Ticket × Nat)) (n : Nat) :
    headed (l ++ l') n = headed l n ++ headed l' n := by
  rw [headed, List.filter_append, List.map_append]
  rfl

theorem headed_cons (t : Ticket) (n : Nat) (l : List (Ticket × Nat)) (m : Nat) :
    headed ((t, n) :: l) m = (if n = m then [t] else []) ++ headed l m := by
  by_cases h : n = m <;> simp [headed, h]

theorem headed_concat (l : List (Ticket × Nat)) (t : Ticket) (n m : Nat) :
    headed (l ++ [(t, n)]) m = headed l m ++ if n = m then [t] else [] := by
  rw [headed_append, headed_cons]
  exact congrArg _ (List.append_nil _)

theorem not_mem_of_headed {l : List (Ticket × Nat)} {n : Nat} (h : headed l n = []) (t : Ticket) :
    (t, n) ∉ l := by
  intro hmem
  have hnone := List.filter_eq_nil_iff.mp (List.map_eq_nil_iff.mp h) _ hmem
  simp at hnone

namespace State

/-- The feeds that the workers work for. -/
def roster (s : State ρ) : List (Option String) := s.workers.map Worker.post

theorem handled_set {s : State ρ} {n : Nat} {w : Worker ρ} (w' : Worker ρ)
    (hw : s.workers[n]? = some w) :
    State.handled { s with workers := s.workers.set n w' } +
        (if w.phase.isHandling = true then 1 else 0) =
      s.handled + if w'.phase.isHandling = true then 1 else 0 := by
  obtain ⟨hlt, rfl⟩ := List.getElem?_eq_some_iff.mp hw
  simp only [handled, ← List.countP_eq_length_filter, List.countP_set hlt]
  by_cases hw : s.workers[n].phase.isHandling = true
  · have hcounted : 0 < s.workers.countP (·.phase.isHandling) :=
      List.countP_pos_iff.mpr ⟨_, List.getElem_mem hlt, hw⟩
    simp only [if_pos hw]
    omega
  · simp only [if_neg hw]
    omega

theorem handled_set_le {s : State ρ} {n : Nat} {w w' : Worker ρ} (hw : s.workers[n]? = some w)
    (hidle : w'.phase.isHandling = false) :
    State.handled { s with workers := s.workers.set n w' } ≤ s.handled := by
  have hset := handled_set w' hw
  rw [hidle, if_neg Bool.false_ne_true] at hset
  omega

end State

/-- What holds of a state, where `log` is what was seen before. -/
structure Sound (c : Settings.Dispatch) (log : List Sight) (s : State ρ) : Prop where
  books : Books log s.next s.travelling
  staffing : Staffing s.roster s.queues s.awaited
  accounts : Accounts log s.workers
  fits {n : Nat} {w : Worker ρ} : s.workers[n]? = some w → w.Fits (headed s.travelling n)
  heading {t : Ticket} {n : Nat} : (t, n) ∈ s.travelling →
    s.roster[n]? = some (some t.event.feed)
  quiet : s.awaited.isSome = true → s.travelling = []
  refused : s.refused = []
  permits : s.handled ≤ max c.maxFeeds 1
  order : InOrder log

namespace Sound

variable {c : Settings.Dispatch} {log : List Sight} {s s' : State ρ} {n : Nat} {w w' : Worker ρ}
  {t : Ticket}

theorem start : Sound c [] ({} : State ρ) where
  books := .empty
  staffing := .empty
  accounts := ⟨nofun, fun _ => ⟨rfl, rfl⟩⟩
  fits := nofun
  heading := nofun
  quiet := nofun
  refused := rfl
  permits := Nat.zero_le _
  order := ⟨nofun, fun h => by simp at h⟩

/-- An event that is submitted now was not seen before. -/
theorem order_submit (h : Sound c log s) (e : Event.Input) :
    InOrder (log ++ [⟨.submitted, ⟨s.next, e⟩⟩]) := by
  have hnew : (⟨s.next, e⟩ : Ticket) ∉ tickets .accepted log := fun hmem =>
    Nat.lt_irrefl _ (h.books.number_lt hmem)
  exact h.order.submit hnew fun hmem => hnew (h.accounts.accepted_of_started hmem)

theorem headed_of_length_le (h : Sound c log s) (hn : s.workers.length ≤ n) :
    headed s.travelling n = [] := by
  rw [headed, List.map_eq_nil_iff, List.filter_eq_nil_iff]
  rintro ⟨t, m⟩ ht hm
  obtain rfl : m = n := by simpa using hm
  have hlt := (List.getElem?_eq_some_iff.mp (h.heading ht)).1
  rw [State.roster, List.length_map] at hlt
  omega

theorem join {e : Event.Input} (h : Sound c log s) (hopen : s.awaited = none)
    (hqueue : s.queues.lookup e.feed = some n) (hw : s.workers[n]? = some w) :
    Sound c (log ++ [⟨.submitted, ⟨s.next, e⟩⟩])
      { s with
        next := s.next + 1
        workers := s.workers.set n { w with pending := w.pending + 1 }
        travelling := s.travelling ++ [(⟨s.next, e⟩, n)] } := by
  have hn := h.staffing.listed_of_lookup hqueue
  have hpost : Worker.post { w with pending := w.pending + 1 } = w.post := rfl
  have hroster := roster_set hw hpost
  constructor
  case books => exact h.books.submit e n
  case staffing =>
    rw [State.roster, hroster]
    exact h.staffing
  case accounts =>
    exact h.accounts.set h.staffing.apart hw hpost (fun _ _ _ _ ht => ht.submit _)
      fun _ _ ht => ht.submit _
  case fits =>
    intro m v hv
    rw [headed_concat]
    obtain ⟨rfl, rfl⟩ | ⟨hm, hv⟩ := getElem?_set_cases hv
    · obtain ⟨hpending, hleft⟩ := h.fits hw
      refine ⟨?_, hleft⟩
      rw [if_pos rfl, List.length_append, List.length_singleton]
      dsimp only
      omega
    · rw [if_neg (Ne.symm hm), List.append_nil]
      exact h.fits hv
  case heading =>
    intro t m ht
    rw [State.roster, hroster]
    rcases List.mem_append.mp ht with ht | ht
    · exact h.heading ht
    · obtain ⟨rfl, rfl⟩ := Prod.mk.inj (List.mem_singleton.mp ht)
      exact hn
  case quiet =>
    intro hclosed
    rw [hopen] at hclosed
    cases hclosed
  case refused => exact h.refused
  case permits =>
    have hsame := State.handled_set { w with pending := w.pending + 1 } hw
    exact Nat.le_trans (Nat.le_of_eq (Nat.add_right_cancel hsame)) h.permits
  case order => exact h.order_submit e

theorem hire {e : Event.Input} (h : Sound c log s) (hopen : s.awaited = none)
    (hnone : ∀ n w, s.queues.lookup e.feed = some n → s.workers[n]? = some w →
      w.phase.isStopped = true) :
    Sound c (log ++ [⟨.submitted, ⟨s.next, e⟩⟩])
      { s with
        next := s.next + 1
        workers := s.workers ++ [{ feed := e.feed, pending := 1 }]
        queues := s.queues.filter (·.1 != e.feed) ++ [(e.feed, s.workers.length)]
        travelling := s.travelling ++ [(⟨s.next, e⟩, s.workers.length)] } := by
  have hfree : some e.feed ∉ s.roster := by
    intro hmem
    obtain ⟨n, w, hw, hfeed⟩ := exists_of_mem_roster hmem
    have hqueue := h.staffing.queued hopen (hfeed ▸ getElem?_roster hw)
    rw [Worker.post, Phase.isGone_of_stopped (hnone n w hqueue hw)] at hfeed
    cases hfeed
  have hroster : (s.workers ++ [({ feed := e.feed, pending := 1 } : Worker ρ)]).map Worker.post =
      s.roster ++ [some e.feed] := List.map_append
  constructor
  case books => exact h.books.submit e s.workers.length
  case staffing =>
    rw [State.roster, hroster]
    have hhired := (hopen ▸ h.staffing).hire hfree
    rw [State.roster, List.length_map] at hhired
    exact hopen ▸ hhired
  case accounts =>
    refine (h.accounts.hire rfl fun feed hfeed => ?_).submit _
    obtain rfl := Option.some.inj hfeed
    exact hfree
  case fits =>
    intro m v hv
    rw [headed_concat]
    obtain hm | ⟨rfl, rfl⟩ := getElem?_concat_cases hv
    · have hlt := (List.getElem?_eq_some_iff.mp hm).1
      rw [if_neg (Nat.ne_of_gt hlt), List.append_nil]
      exact h.fits hm
    · rw [if_pos rfl, h.headed_of_length_le (Nat.le_refl _)]
      exact Worker.fits_hired e.feed _
  case heading =>
    intro t m ht
    rw [State.roster, hroster]
    rcases List.mem_append.mp ht with ht | ht
    · have hm := h.heading ht
      rwa [List.getElem?_append_left (List.getElem?_eq_some_iff.mp hm).1]
    · obtain ⟨rfl, rfl⟩ := Prod.mk.inj (List.mem_singleton.mp ht)
      rw [← List.length_map Worker.post]
      exact List.getElem?_concat_length
  case quiet =>
    intro hclosed
    rw [hopen] at hclosed
    cases hclosed
  case refused => exact h.refused
  case permits =>
    refine Nat.le_trans (Nat.le_of_eq ?_) h.permits
    rw [State.handled, List.filter_append]
    exact congrArg List.length (List.append_nil _)
  case order => exact h.order_submit e

theorem arrive (h : Sound c log s)
    (hfind : s.travelling.find? (·.1.number == t.number) = some (t, n))
    (hw : s.workers[n]? = some w) :
    Sound c (log ++ [⟨.accepted, t⟩])
      { s with
        workers := s.workers.set n { w with queue := w.queue ++ [t] }
        travelling := s.travelling.filter (·.1.number != t.number) } := by
  obtain ⟨before, after, hsplit, hfilter⟩ := h.books.split hfind
  rw [hfilter]
  have hmem : (t, n) ∈ s.travelling := hsplit ▸ List.mem_append_right _ (.head _)
  have hfeed : w.post = some t.event.feed :=
    Option.some.inj ((getElem?_roster hw).symm.trans (h.heading hmem))
  have hpost : Worker.post { w with queue := w.queue ++ [t] } = w.post := rfl
  have hroster := roster_set hw hpost
  constructor
  case books => exact (hsplit ▸ h.books).accept
  case staffing =>
    rw [State.roster, hroster]
    exact h.staffing
  case accounts =>
    refine h.accounts.set h.staffing.apart hw hpost (fun feed _ _ hne ht => ht.other ?_)
      fun feed hmine ht => ?_
    · intro x hx he
      obtain rfl := List.mem_singleton.mp hx
      exact hne (he ▸ hfeed)
    · have hheld : Worker.held { w with queue := w.queue ++ [t] } = w.held ++ [t] :=
        (List.append_assoc ..).symm
      rw [hheld]
      exact ht.accept (Option.some.inj (hfeed.symm.trans hmine))
  case fits =>
    intro m v hv
    obtain ⟨rfl, rfl⟩ | ⟨hm, hv⟩ := getElem?_set_cases hv
    · obtain ⟨hpending, hleft⟩ := h.fits hw
      refine ⟨?_, fun hgone => ?_⟩
      · rw [hsplit, headed_append, headed_cons, if_pos rfl] at hpending
        rw [headed_append]
        simp only [List.length_append, List.length_singleton] at hpending ⊢
        omega
      · rw [Worker.post, if_pos hgone] at hfeed
        cases hfeed
    · have hfits := h.fits hv
      rw [hsplit, headed_append, headed_cons, if_neg (Ne.symm hm)] at hfits
      rwa [headed_append]
  case heading =>
    intro u m hu
    rw [State.roster, hroster]
    refine h.heading ?_
    rw [hsplit]
    exact (List.mem_append.mp hu).elim (List.mem_append_left _)
      fun hu => List.mem_append_right _ (.tail _ hu)
  case quiet =>
    intro hclosed
    rw [h.quiet hclosed] at hmem
    cases hmem
  case refused => exact h.refused
  case permits =>
    have hsame := State.handled_set { w with queue := w.queue ++ [t] } hw
    exact Nat.le_trans (Nat.le_of_eq (Nat.add_right_cancel hsame)) h.permits
  case order => exact h.order.accept t

/-- What was accepted before the event that a worker starts was submitted has been handled. -/
theorem order_turn {sights : List Sight} (h : Sound c log s) (hw : s.workers[n]? = some w)
    (hturn : w.Turn sights w') : InOrder (log ++ sights) := by
  cases hturn with
  | start hphase =>
      rename_i u
      apply h.order.start
      intro t hbefore hfeed
      obtain ⟨hpost, -⟩ := w.at_post (by rw [hphase]; exact .head _)
      have haccepted := (h.accounts.tallied hw hpost).accepted
      have hheld : w.held = u :: w.queue := by rw [Worker.held, hphase]; rfl
      rw [hheld] at haccepted
      have hmem : u ∈ ticketsOf w.feed .accepted log :=
        haccepted ▸ List.mem_append_right _ (.head _)
      obtain ⟨hmem, hmine⟩ := mem_ticketsOf.mp hmem
      have hbehind : Precedes (ticketsOf w.feed .accepted log) t u :=
        (h.order.behind hbefore hmem).filter (by simpa [hmine] using hfeed) (by simpa using hmine)
      have hnodup : (ticketsOf w.feed .accepted log).Nodup := h.books.nodup_accepted.filter _
      rw [haccepted] at hbehind hnodup
      exact mem_tickets.mp (mem_ticketsOf.mp (hbehind.mem_of_nodup hnodup)).1
  | finish => exact h.order.finish _
  | _ =>
      rw [List.append_nil]
      exact h.order

theorem turn {sights : List Sight} {results : List (Reported ρ)} (h : Sound c log s)
    (hw : s.workers[n]? = some w) (hturn : w.Turn sights w')
    (hpermit : w'.phase.isHandling = false ∨ s.handled < max c.maxFeeds 1) :
    Sound c (log ++ sights) { s with workers := s.workers.set n w', results } := by
  have hpost := hturn.post
  have hroster := roster_set hw hpost
  have hfeed {x : Sight} (hx : x ∈ sights) : w.post = some x.ticket.event.feed := by
    obtain ⟨hmine, hheld⟩ := hturn.mem_held hx
    rw [hmine, (h.accounts.tallied hw hmine).feed_of_mem hheld]
  constructor
  case books => exact h.books.other hturn.not_seen
  case staffing =>
    rw [State.roster, hroster]
    exact h.staffing
  case accounts =>
    refine h.accounts.set h.staffing.apart hw hpost (fun feed _ _ hne ht => ht.other ?_)
      fun feed _ ht => hturn.tallies ht
    intro x hx he
    exact hne (he ▸ hfeed hx)
  case fits =>
    intro m v hv
    obtain ⟨rfl, rfl⟩ | ⟨hm, hv⟩ := getElem?_set_cases hv
    · exact hturn.fits (h.fits hw)
    · exact h.fits hv
  case heading =>
    intro u m hu
    rw [State.roster, hroster]
    exact h.heading hu
  case quiet => exact h.quiet
  case refused => exact h.refused
  case permits =>
    rcases hpermit with hidle | hfree
    · exact Nat.le_trans (State.handled_set_le hw hidle) h.permits
    · have hset := State.handled_set w' hw
      have hone : (if w'.phase.isHandling = true then 1 else 0) ≤ 1 := by split <;> decide
      change State.handled { s with workers := s.workers.set n w' } ≤ _
      omega
  case order => exact h.order_turn hw hturn

/-- A worker goes only when nothing is in its queue or on its way to it. -/
theorem leave {phase : Phase ρ} (h : Sound c log s) (hw : s.workers[n]? = some w)
    (hheld : w.held = []) (hnone : headed s.travelling n = []) (hfree : phase.inHand = [])
    (hgone : phase.isGone = true) :
    Sound c log
      { s with
        workers := s.workers.set n { w with phase }
        queues := s.queues.filter (·.2 != n) } := by
  obtain ⟨hhand, hqueue⟩ := List.append_eq_nil_iff.mp hheld
  have hpost : Worker.post { w with phase } = none := if_pos hgone
  have hroster : (s.workers.set n { w with phase }).map Worker.post = s.roster.set n none := by
    rw [List.map_set, hpost]
    rfl
  constructor
  case books => exact h.books
  case staffing =>
    rw [State.roster, hroster]
    exact h.staffing.leave
  case accounts => exact h.accounts.leave hw hheld hpost
  case fits =>
    intro m v hv
    obtain ⟨rfl, rfl⟩ | ⟨hm, hv⟩ := getElem?_set_cases hv
    · refine ⟨?_, fun _ => hqueue⟩
      have hpending := (h.fits hw).pending
      rw [Phase.untold_of_free hhand] at hpending
      rw [Phase.untold_of_free hfree]
      exact hpending
    · exact h.fits hv
  case heading =>
    intro t m ht
    have hne : n ≠ m := by
      rintro rfl
      exact not_mem_of_headed hnone t ht
    rw [State.roster, hroster, List.getElem?_set_ne hne]
    exact h.heading ht
  case quiet => exact h.quiet
  case refused => exact h.refused
  case permits =>
    exact Nat.le_trans (State.handled_set_le hw (Phase.isHandling_of_free hfree)) h.permits
  case order => exact h.order

theorem retire {phase : Phase ρ} (h : Sound c log s) (hw : s.workers[n]? = some w)
    (hpending : w.pending = 0) (hleave : w.Leave phase) :
    Sound c log
      { s with
        workers := s.workers.set n { w with phase }
        queues := s.queues.filter (·.2 != n) } := by
  obtain ⟨hfree, hfree', hgone⟩ := hleave.free
  have hsum := (h.fits hw).pending
  rw [hpending] at hsum
  have hnone : headed s.travelling n = [] := List.length_eq_zero_iff.mp (by omega)
  have hqueue : w.queue = [] := List.length_eq_zero_iff.mp (by omega)
  exact h.leave hw (by rw [Worker.held, hfree, hqueue]; rfl) hnone hfree' hgone

theorem stop (h : Sound c log s) (hclosed : s.awaited.isSome = true)
    (hw : s.workers[n]? = some w) (hphase : w.phase = .listening) (hqueue : w.queue = []) :
    Sound c log { s with workers := s.workers.set n { w with phase := .stopped } } := by
  obtain ⟨ns, hns⟩ := Option.isSome_iff_exists.mp hclosed
  have hheld : w.held = [] := by rw [Worker.held, hphase, hqueue]; rfl
  have hnone : headed s.travelling n = [] := by rw [h.quiet hclosed]; rfl
  have hleft := h.leave hw hheld hnone (rfl : (Phase.stopped : Phase ρ).inHand = []) rfl
  rw [(h.staffing.closed hns).1] at hleft ⊢
  exact hleft

theorem close (h : Sound c log s) (hopen : s.awaited = none) (htravelling : s.travelling = []) :
    Sound c log { s with awaited := some (s.queues.map (·.2)), queues := [] } where
  books := h.books
  staffing := (hopen ▸ h.staffing).close
  accounts := h.accounts
  fits := h.fits
  heading := h.heading
  quiet _ := htravelling
  refused := h.refused
  permits := h.permits
  order := h.order

theorem step {sights : List Sight} (h : Sound c log s) (hstep : Step c s sights s') :
    Sound c (log ++ sights) s' := by
  cases hstep with
  | join hopen hqueue hw => exact h.join hopen hqueue hw
  | hire hopen hnone => exact h.hire hopen hnone
  | arrive hfind hw => exact h.arrive hfind hw
  | refuse ht hw hstopped =>
      -- An event is never on its way to a worker that has stopped.
      have hpost := (getElem?_roster hw).symm.trans (h.heading ht)
      rw [Worker.post, Phase.isGone_of_stopped hstopped] at hpost
      cases hpost
  | turn hw hturn hpermit => exact h.turn hw hturn hpermit
  | retire hw hpending hleave =>
      rw [List.append_nil]
      exact h.retire hw hpending hleave
  | stop hclosed hw hphase hqueue =>
      rw [List.append_nil]
      exact h.stop hclosed hw hphase hqueue
  | close hopen htravelling =>
      rw [List.append_nil]
      exact h.close hopen htravelling

open State in
/-- What holds along every history. -/
theorem run {moves : List (Move ρ)} (h : Sound c log s) (hmoves : moveAll? c s moves = some s') :
    Sound c (log ++ s.seen c moves) s' := by
  induction moves generalizing log s with
  | nil =>
      obtain rfl := Option.some.inj hmoves
      rw [seen, List.append_nil]
      exact h
  | cons m rest ih =>
      obtain ⟨next, hm, hrest⟩ := Option.bind_eq_some_iff.mp hmoves
      have hnext := ih (h.step (step_of_move hm)) hrest
      rw [List.append_assoc] at hnext
      rw [seen, hm]
      exact hnext

end Sound

/-- What submitters and workers come to together. -/
structure Orderly (c : Settings.Dispatch) (log : List Sight) (s : State ρ) : Prop where
  /-- No submission fails. -/
  refused : s.refused = []
  /-- No event is accepted twice. -/
  accepted : (tickets .accepted log).Nodup
  /-- The events of a feed are handled in the order in which they were accepted. -/
  inOrder (feed : String) : ticketsOf feed .finished log <+: ticketsOf feed .started log ∧
    ticketsOf feed .started log <+: ticketsOf feed .accepted log
  /-- Once all has come to its end, each event that was accepted has been handled once. -/
  once : s.isDown = true → (tickets .started log).Perm (tickets .accepted log) ∧
    (tickets .finished log).Perm (tickets .accepted log)
  /-- No worker stops while an event is in its queue or on its way to it. -/
  stopped (n : Nat) (w : Worker ρ) : s.workers[n]? = some w → w.phase.isStopped = true →
    w.queue = [] ∧ ∀ t, (t, n) ∉ s.travelling
  /-- An event that was submitted after another one of its feed had been accepted is not started
  before that one has been handled. -/
  inTurn (pre post : List Sight) (t u : Ticket) : log = pre ++ ⟨.started, u⟩ :: post →
    Precedes log ⟨.accepted, t⟩ ⟨.submitted, u⟩ → t.event.feed = u.event.feed →
    ⟨.finished, t⟩ ∈ pre
  /-- No two workers handle events of one feed. -/
  apart (n m : Nat) (v w : Worker ρ) (t u : Ticket) : s.workers[n]? = some v →
    s.workers[m]? = some w → v.phase = .handling t → w.phase = .handling u →
    t.event.feed = u.event.feed → n = m
  /-- Not too many events are being handled. -/
  permits : s.handled ≤ max c.maxFeeds 1

section Orderly

variable {c : Settings.Dispatch} {log : List Sight} {s : State ρ}

theorem perm_of_filter {l l' : List Ticket}
    (h : ∀ feed, l.filter (·.event.feed = feed) = l'.filter (·.event.feed = feed)) :
    l.Perm l' := by
  classical
  apply List.perm_iff_count.mpr
  intro t
  have hsame := congrArg (List.count t) (h t.event.feed)
  rwa [List.count_filter (by simp), List.count_filter (by simp)] at hsame

/-- When all has come to its end, no worker is left. -/
theorem Sound.left_of_isDown (h : Sound c log s) (hdown : s.isDown = true) (feed : String) :
    some feed ∉ s.roster := by
  intro hmem
  rw [State.isDown] at hdown
  split at hdown
  case h_1 => cases hdown
  case h_2 ns hns =>
    obtain ⟨n, w, hw, hpost⟩ := exists_of_mem_roster hmem
    have hn := (h.staffing.closed hns).2 n feed (hpost ▸ getElem?_roster hw)
    have hstopped := List.all_eq_true.mp hdown n hn
    rw [State.hasStopped, hw] at hstopped
    rw [Worker.post, Phase.isGone_of_stopped hstopped] at hpost
    cases hpost

theorem Sound.roster_of_handling {n : Nat} {w : Worker ρ} {t : Ticket} (h : Sound c log s)
    (hw : s.workers[n]? = some w) (ht : w.phase = .handling t) :
    s.roster[n]? = some (some t.event.feed) := by
  obtain ⟨hpost, hheld⟩ : w.post = some w.feed ∧ t ∈ w.held :=
    w.at_post (by rw [ht]; exact .head _)
  rw [(h.accounts.tallied hw hpost).feed_of_mem hheld, ← hpost]
  exact getElem?_roster hw

theorem Sound.orderly (h : Sound c log s) : Orderly c log s where
  refused := h.refused
  accepted := h.books.nodup_accepted
  inOrder := h.accounts.inOrder
  once hdown := by
    have hsettled (feed : String) := h.accounts.settled (h.left_of_isDown hdown feed)
    constructor
    · exact perm_of_filter fun feed => (hsettled feed).started.trans (hsettled feed).accepted.symm
    · exact perm_of_filter fun feed =>
        ((hsettled feed).accepted.trans (List.append_nil _)).symm
  stopped n w hw hstopped := by
    have hgone := Phase.isGone_of_stopped hstopped
    refine ⟨(h.fits hw).left hgone, fun t ht => ?_⟩
    have hpost := (getElem?_roster hw).symm.trans (h.heading ht)
    rw [Worker.post, hgone] at hpost
    cases hpost
  inTurn pre post t u hsplit hbefore hfeed := h.order.inTurn hsplit hbefore hfeed
  apart n m v w t u hv hw ht hu hfeed := by
    refine h.staffing.apart n m t.event.feed (h.roster_of_handling hv ht) ?_
    rw [hfeed]
    exact h.roster_of_handling hw hu
  permits := h.permits

end Orderly

/-- However the moves of submitters and workers are interleaved, each event is handled once and in
its turn, and no event is left behind by a worker that stops. -/
theorem histories_orderly (c : Settings.Dispatch) (moves : List (Move ρ)) (s : State ρ)
    (h : State.moveAll? c {} moves = some s) : Orderly c (State.seen c {} moves) s :=
  (Sound.start.run h).orderly

/-- The worker of a feed would retire while an event is on its way to it. After it did retire, the
feed gets another one. -/
def racingMoves : List (Move Unit) :=
  [.enroll (.feedDeleted "f"), .enqueue 0, .receive 0, .tell 0,
   .enroll (.feedDeleted "f"), .enroll (.feedDeleted "g"), .enqueue 2, .receive 1, .tell 1,
   .start 0, .finish 0 (), .retire 0, .report 0,
   .enqueue 1, .receive 0, .tell 0,
   .start 1, .finish 1 (), .retire 1, .report 1,
   .start 0, .finish 0 (), .retire 0, .report 0,
   .enroll (.feedDeleted "f"), .enqueue 3, .close,
   .receive 2, .tell 2, .start 2, .finish 2 (), .retire 2, .report 2]

/-- One event at a time, and one in a queue. -/
def narrow : Settings.Dispatch where
  maxFeeds := 0
  capacity := 1

/-- The four events are handled by three workers, and all has come to its end. -/
theorem racing_orderly : ∃ s, State.moveAll? narrow {} racingMoves = some s ∧ s.isDown = true ∧
    s.workers.length = 3 ∧ (tickets .finished (State.seen narrow {} racingMoves)).length = 4 ∧
    Orderly narrow (State.seen narrow {} racingMoves) s := by
  have hend : (State.moveAll? narrow {} racingMoves).map (fun s => (s.isDown, s.workers.length)) =
      some (true, 3) := by decide +kernel
  obtain ⟨s, hs, hs'⟩ := Option.map_eq_some_iff.mp hend
  obtain ⟨hdown, hworkers⟩ := Prod.mk.inj hs'
  exact ⟨s, hs, hdown, hworkers, by decide +kernel, histories_orderly narrow racingMoves s hs⟩

end Newswire.Dispatch
