import Newswire.Proofs.Dispatch.Histories
import Newswire.Proofs.Dispatch.Owing

/-!
# The order of results

Each event that is handled has one result, and the results of a feed are reported in the order in
which its events were submitted. The result of the end of a feed can be late: the worker that has
handled it gives its queue up before it reports, and what is submitted in between is handled by
another worker, which may report first.
-/

namespace Newswire.Dispatch

variable {ρ : Type} {trace new : List (Mark ρ)} {t u : Ticket}

/-- The worker that had handled `t` had given its queue up when `u` was submitted. -/
def SubmittedAfter (trace : List (Mark ρ)) (t u : Ticket) : Prop :=
  ∃ before after, trace = before ++ .came ⟨.submitted, u⟩ :: after ∧ .retired t ∈ before

theorem SubmittedAfter.append (h : SubmittedAfter trace t u) (new : List (Mark ρ)) :
    SubmittedAfter (trace ++ new) t u := by
  obtain ⟨before, after, rfl, ht⟩ := h
  exact ⟨before, after ++ new, by simp, ht⟩

theorem submittedAfter_of_new (ht : .retired t ∈ trace)
    (hu : u ∈ tickets .submitted (sightsOf new)) : SubmittedAfter (trace ++ new) t u := by
  obtain ⟨m, hm, hsight⟩ := List.mem_filterMap.mp (mem_tickets.mp hu)
  split at hsight <;> cases hsight
  obtain ⟨before, after, rfl⟩ := List.append_of_mem hm
  exact ⟨trace ++ before, after, by simp, List.mem_append_left _ ht⟩

/-- The worker that had handled the end of a feed, `t`, had given its queue up but not reported when
`u` was submitted. -/
def Late (trace : List (Mark ρ)) (t u : Ticket) : Prop :=
  t.event.isEnd = true ∧ ∃ before after, trace = before ++ .came ⟨.submitted, u⟩ :: after ∧
    .retired t ∈ before ∧ ∀ result, .reported t result ∉ before

theorem Late.append (h : Late trace t u) (new : List (Mark ρ)) : Late (trace ++ new) t u := by
  obtain ⟨hend, before, after, rfl, ht, hreported⟩ := h
  exact ⟨hend, before, after ++ new, by simp, ht, hreported⟩

/-- `u` is `t` or was handled before it. -/
def UpTo (trace : List (Mark ρ)) (t u : Ticket) : Prop :=
  u = t ∨ Precedes (tickets .finished (sightsOf trace)) u t

theorem UpTo.append (h : UpTo trace t u) (new : List (Mark ρ)) : UpTo (trace ++ new) t u := by
  refine h.imp_right fun h => ?_
  rw [sightsOf_append, tickets_append]
  exact Precedes.append h _

/-- Of its feed, the event whose result is owed was handled last. Once the worker has given its queue
up, this is so among the events that had been submitted by then. -/
structure Owes (trace : List (Mark ρ)) (d : Due ρ) : Prop where
  feed : d.feed = d.ticket.event.feed
  ends : d.standing ≠ .staying → d.ticket.event.isEnd = true
  last : d.standing ≠ .gone → ∀ u ∈ ticketsOf d.feed .finished (sightsOf trace),
    UpTo trace d.ticket u
  left : d.standing = .gone → .retired d.ticket ∈ trace ∧
    ∀ u ∈ ticketsOf d.feed .submitted (sightsOf trace),
      UpTo trace d.ticket u ∨ SubmittedAfter trace d.ticket u

theorem Owes.append {d : Due ρ} (h : Owes trace d)
    (hnew : d.standing ≠ .gone → ticketsOf d.feed .finished (sightsOf new) = []) :
    Owes (trace ++ new) d where
  feed := h.feed
  ends := h.ends
  last hgone u hu := by
    rw [sightsOf_append, ticketsOf_append, hnew hgone, List.append_nil] at hu
    exact (h.last hgone u hu).append new
  left hgone := by
    obtain ⟨hretired, hleft⟩ := h.left hgone
    refine ⟨List.mem_append_left _ hretired, fun u hu => ?_⟩
    rw [sightsOf_append, ticketsOf_append, List.mem_append] at hu
    rcases hu with hu | hu
    · exact (hleft u hu).imp (·.append new) (·.append new)
    · exact .inr (submittedAfter_of_new hretired (mem_ticketsOf.mp hu).1)

namespace Sound

variable {c : Settings.Dispatch} {log : List Sight} {s : State ρ} {n : Nat} {w : Worker ρ}

theorem finished_initial (h : Sound c log s) (feed : String) :
    ticketsOf feed .finished log <+: ticketsOf feed .accepted log :=
  (h.accounts.inOrder feed).1.trans (h.accounts.inOrder feed).2

theorem accepted_of_finished (h : Sound c log s) (ht : t ∈ tickets .finished log) :
    t ∈ tickets .accepted log := by
  have hmine : t ∈ ticketsOf t.event.feed .finished log := mem_ticketsOf.mpr ⟨ht, rfl⟩
  exact (mem_ticketsOf.mp ((h.finished_initial _).subset hmine)).1

theorem submitted_of_finished (h : Sound c log s) (ht : t ∈ tickets .finished log) :
    t ∈ tickets .submitted log :=
  h.books.whereabouts.mem_iff.mpr (List.mem_append_left _ (h.accepted_of_finished ht))

theorem nodup_submitted (h : Sound c log s) : (tickets .submitted log).Nodup :=
  List.Nodup.of_map _ (h.books.numbers ▸ List.nodup_range)

theorem nodup_finished (h : Sound c log s) : (tickets .finished log).Nodup := by
  refine List.nodup_iff_sublist.mpr fun t ht => ?_
  have hmine : Precedes (ticketsOf t.event.feed .finished log) t t :=
    Precedes.filter ht (by simp) (by simp)
  have haccepted : (ticketsOf t.event.feed .accepted log).Nodup := h.books.nodup_accepted.filter _
  have hnodup := haccepted.sublist (h.finished_initial _).sublist
  exact hmine.not_symm hnodup hmine

/-- Events of a feed that were submitted one after the other are handled in that order. -/
theorem finished_before (h : Sound c log s) (hfeed : t.event.feed = u.event.feed)
    (hbefore : Precedes log ⟨.accepted, t⟩ ⟨.submitted, u⟩) (hu : u ∈ tickets .finished log) :
    Precedes (tickets .finished log) t u := by
  have haccepted := h.order.behind hbefore (h.accepted_of_finished hu)
  have hmine : Precedes (ticketsOf u.event.feed .accepted log) t u :=
    haccepted.filter (by simpa using hfeed) (by simp)
  have hfinished := hmine.of_initial (h.finished_initial _) (mem_ticketsOf.mpr ⟨hu, rfl⟩)
    (h.books.nodup_accepted.filter _)
  exact List.Sublist.trans hfinished List.filter_sublist

/-- Nothing of its feed is left when a worker without an event in hand gives its queue up. -/
theorem finished_of_leaving (h : Sound c log s) (hw : s.workers[n]? = some w)
    (hpost : w.post = some w.feed) (hfree : w.phase.inHand = []) (hpending : w.pending = 0)
    (hu : u ∈ ticketsOf w.feed .submitted log) : u ∈ ticketsOf w.feed .finished log := by
  obtain ⟨hsubmitted, hfeed⟩ := mem_ticketsOf.mp hu
  have hsum := (h.fits hw).pending
  rw [hpending] at hsum
  have hnone : headed s.travelling n = [] := List.length_eq_zero_iff.mp (by omega)
  have hqueue : w.queue = [] := List.length_eq_zero_iff.mp (by omega)
  have htallied := (h.accounts.tallied hw hpost).accepted
  rw [Worker.held, hfree, hqueue, List.append_nil, List.append_nil] at htallied
  rw [← htallied, mem_ticketsOf]
  refine ⟨?_, hfeed⟩
  rcases List.mem_append.mp (h.books.whereabouts.mem_iff.mp hsubmitted) with haccepted | hway
  · exact haccepted
  · obtain ⟨⟨v, m⟩, hmem, rfl⟩ := List.mem_map.mp hway
    obtain rfl := h.staffing.apart m n w.feed (hfeed ▸ h.heading hmem) (hpost ▸ getElem?_roster hw)
    exact absurd hmem (not_mem_of_headed hnone v)

/-- A worker that handles an event does not owe a result, nor does another one at the same post. -/
theorem feed_ne_of_due {d : Due ρ} (h : Sound c log s) (hw : s.workers[n]? = some w)
    (hphase : w.phase = .handling t) (hd : d ∈ s.dues) (hgone : d.standing ≠ .gone) :
    t.event.feed ≠ d.feed := by
  intro hfeed
  obtain ⟨m, v, hv, hdue⟩ := State.exists_of_mem_dues hd
  obtain ⟨hmine, hfree, hleft⟩ := Worker.of_due hdue
  have hpost : v.post = some d.feed := by
    rw [Worker.post, if_neg fun hg => hgone (hleft.mp hg), hmine]
  have hroster := h.roster_of_handling hw hphase
  rw [hfeed] at hroster
  obtain rfl := h.staffing.apart n m d.feed hroster (hpost ▸ getElem?_roster hv)
  obtain rfl := Option.some.inj (hw.symm.trans hv)
  rw [hphase] at hfree
  cases hfree

end Sound

/-- What holds of a state of which the trace is known. -/
structure Posted (trace : List (Mark ρ)) (s : State ρ) : Prop where
  results : s.results = (reports trace).map fun p => ⟨p.1.event.feed, p.2⟩
  handled : (finishes trace).map (·.1) = tickets .finished (sightsOf trace)
  account : (finishes trace).Perm (reports trace ++ s.dues.map fun d => (d.ticket, d.result))
  owes : ∀ d ∈ s.dues, Owes trace d
  inOrder {t u : Ticket} : t.event.feed = u.event.feed →
    Precedes (sightsOf trace) ⟨.accepted, t⟩ ⟨.submitted, u⟩ → u ∈ (reports trace).map (·.1) →
    Precedes ((reports trace).map (·.1)) t u ∨ Late trace t u

namespace Posted

variable {c : Settings.Dispatch} {s s' : State ρ} {n : Nat} {w : Worker ρ} {d : Due ρ}

theorem start : Posted [] ({} : State ρ) where
  results := rfl
  handled := rfl
  account := .nil
  owes := nofun
  inOrder _ _ := nofun

/-- The events that were handled are those with a report and those whose result is owed. -/
theorem finished_perm (h : Posted trace s) : (tickets .finished (sightsOf trace)).Perm
    ((reports trace).map (·.1) ++ s.dues.map (·.ticket)) := by
  have hperm := h.account.map (·.1)
  rw [h.handled, List.map_append, List.map_map] at hperm
  exact hperm

theorem nodup (h : Posted trace s) (hs : Sound c (sightsOf trace) s) :
    ((reports trace).map (·.1) ++ s.dues.map (·.ticket)).Nodup :=
  h.finished_perm.nodup_iff.mp hs.nodup_finished

theorem finished_of_reported (h : Posted trace s) (hu : u ∈ (reports trace).map (·.1)) :
    u ∈ tickets .finished (sightsOf trace) :=
  h.finished_perm.mem_iff.mpr (List.mem_append_left _ hu)

theorem finished_of_due (h : Posted trace s) (hd : d ∈ s.dues) :
    d.ticket ∈ tickets .finished (sightsOf trace) :=
  h.finished_perm.mem_iff.mpr (List.mem_append_right _ (List.mem_map_of_mem hd))

/-- A result that is owed is not reported. -/
theorem not_reported (h : Posted trace s) (hs : Sound c (sightsOf trace) s) (hd : d ∈ s.dues)
    (result : ρ) : .reported d.ticket result ∉ trace := by
  intro hmem
  have hreported := List.mem_map_of_mem (f := Prod.fst) (mem_reports.mpr hmem)
  exact List.disjoint_of_nodup_append (h.nodup hs) hreported (List.mem_map_of_mem hd)

/-- The events of a feed that come before one whose result is owed have been reported, or are
late. -/
theorem reported_or_late (h : Posted trace s) (hs : Sound c (sightsOf trace) s) (hd : d ∈ s.dues)
    (hfeed : t.event.feed = d.ticket.event.feed)
    (hbefore : Precedes (sightsOf trace) ⟨.accepted, t⟩ ⟨.submitted, d.ticket⟩) :
    t ∈ (reports trace).map (·.1) ∨ Late trace t d.ticket := by
  have hu := h.finished_of_due hd
  have horder := hs.finished_before hfeed hbefore hu
  have hnot : ¬ UpTo trace t d.ticket := by
    rintro (he | h')
    · rw [he] at horder
      exact horder.not_symm hs.nodup_finished horder
    · exact horder.not_symm hs.nodup_finished h'
  rcases List.mem_append.mp (h.finished_perm.mem_iff.mp horder.mem) with ht | ht
  · exact .inl ht
  · obtain ⟨e, he, rfl⟩ := List.mem_map.mp ht
    obtain ⟨hmine, hends, hlast, hleft⟩ := h.owes e he
    have hfeed' : d.ticket.event.feed = e.feed := (hmine.trans hfeed).symm
    -- A worker at its post owes what was handled last, so that only one that has gone can owe it.
    by_cases hgone : e.standing = .gone
    · have hsubmitted := mem_ticketsOf.mpr ⟨hs.submitted_of_finished hu, hfeed'⟩
      obtain ⟨before, after, hsplit, hretired⟩ :=
        ((hleft hgone).2 _ hsubmitted).resolve_left hnot
      refine .inr ⟨hends (by simp [hgone]), before, after, hsplit, hretired, ?_⟩
      intro result hmem
      exact h.not_reported hs he result (hsplit ▸ List.mem_append_left _ hmem)
    · exact absurd (hlast hgone _ (mem_ticketsOf.mpr ⟨hu, hfeed'⟩)) hnot

/-- The order of what was reported does not change. -/
theorem inOrder_append (h : Posted trace s) (hs : Sound c (sightsOf trace) s)
    (hs' : Sound c (sightsOf (trace ++ new)) s') (hfeed : t.event.feed = u.event.feed)
    (hbefore : Precedes (sightsOf (trace ++ new)) ⟨.accepted, t⟩ ⟨.submitted, u⟩)
    (hu : u ∈ (reports trace).map (·.1)) :
    Precedes ((reports (trace ++ new)).map (·.1)) t u ∨ Late (trace ++ new) t u := by
  have hsubmitted := hs.submitted_of_finished (h.finished_of_reported hu)
  have hnodup := hs'.nodup_submitted
  rw [sightsOf_append, tickets_append] at hnodup
  rw [sightsOf_append] at hbefore
  have hbefore := hbefore.of_append fun hmem =>
    -- No event is submitted once more after it was reported.
    List.disjoint_of_nodup_append hnodup hsubmitted (mem_tickets.mpr hmem)
  rw [reports_append, List.map_append]
  exact (h.inOrder hfeed hbefore hu).imp (·.append _) (·.append _)

/-- What is neither handled nor reported leaves the results as they are. -/
theorem still (h : Posted trace s) (hs : Sound c (sightsOf trace) s)
    (hs' : Sound c (sightsOf (trace ++ new)) s') (hfinishes : finishes new = [])
    (hreports : reports new = []) (hnone : tickets .finished (sightsOf new) = [])
    (hresults : s'.results = s.results)
    (hpairs : (s'.dues.map fun d => (d.ticket, d.result)).Perm
      (s.dues.map fun d => (d.ticket, d.result)))
    (howes : ∀ d ∈ s'.dues, Owes (trace ++ new) d) : Posted (trace ++ new) s' where
  results := by rw [hresults, h.results, reports_append, hreports, List.append_nil]
  handled := by
    rw [finishes_append, hfinishes, List.append_nil, h.handled, sightsOf_append, tickets_append,
      hnone, List.append_nil]
  account := by
    rw [finishes_append, hfinishes, reports_append, hreports, List.append_nil, List.append_nil]
    exact h.account.trans (hpairs.symm.append_left _)
  owes := howes
  inOrder hfeed hbefore hu := by
    refine h.inOrder_append hs hs' hfeed hbefore ?_
    rwa [reports_append, hreports, List.append_nil] at hu

theorem owes_of_perm (h : Posted trace s) {rest : List (Due ρ)} (hdues : s.dues.Perm (d :: rest)) :
    Owes trace d ∧ ∀ e ∈ rest, Owes trace e :=
  ⟨h.owes d (hdues.mem_iff.mpr (.head _)), fun e he => h.owes e (hdues.mem_iff.mpr (.tail _ he))⟩

theorem quiet {sights : List Sight} (h : Posted trace s) (hs : Sound c (sightsOf trace) s)
    (hs' : Sound c (sightsOf (trace ++ sights.map .came)) s')
    (hfinished : ∀ x ∈ sights, x.stage ≠ .finished) (hdues : s'.dues.Perm s.dues)
    (hresults : s'.results = s.results) : Posted (trace ++ sights.map .came) s' := by
  have hnone : tickets .finished sights = [] := by
    rw [tickets, List.filter_eq_nil_iff.mpr fun x hx => by simpa using hfinished x hx]
    rfl
  refine h.still hs hs' finishes_came reports_came ?_ hresults (hdues.map _) fun d hd => ?_
  · rw [sightsOf_came, hnone]
  · refine (h.owes d (hdues.mem_iff.mp hd)).append fun _ => ?_
    rw [sightsOf_came, ticketsOf, hnone]
    rfl

theorem finish {result : ρ} (h : Posted trace s) (hs : Sound c (sightsOf trace) s)
    (hs' : Sound c (sightsOf (trace ++ [.finished t result])) s') (hw : s.workers[n]? = some w)
    (hphase : w.phase = .handling t)
    (hdues : s'.dues.Perm (⟨w.feed, t, result, standingAfter t⟩ :: s.dues))
    (hresults : s'.results = s.results) : Posted (trace ++ [.finished t result]) s' := by
  have hfeed : w.feed = t.event.feed := by
    obtain ⟨hpost, hheld⟩ := w.at_post (by rw [hphase]; exact .head _)
    exact ((hs.accounts.tallied hw hpost).feed_of_mem hheld).symm
  have hsights : sightsOf [(.finished t result : Mark ρ)] = [⟨.finished, t⟩] := rfl
  constructor
  case results => simpa [reports, hresults] using h.results
  case handled =>
    rw [finishes_append, List.map_append, h.handled, sightsOf_append, tickets_append]
    rfl
  case account =>
    have hperm := (hdues.map fun d => (d.ticket, d.result)).symm.append_left (reports trace)
    refine List.Perm.trans ?_ (List.Perm.trans hperm (.of_eq (by simp [reports])))
    rw [finishes_append]
    refine (h.account.append_right _).trans ?_
    exact (List.perm_append_singleton ..).trans List.perm_middle.symm
  case owes =>
    intro d hd
    rcases List.mem_cons.mp (hdues.mem_iff.mp hd) with rfl | hd
    · constructor
      case feed => exact hfeed
      case ends =>
        intro hstanding
        by_contra hend
        exact hstanding (if_neg hend)
      case last =>
        intro _ u hu
        rw [sightsOf_append, hsights, ticketsOf_append, List.mem_append] at hu
        rcases hu with hu | hu
        · refine .inr ?_
          rw [sightsOf_append, hsights, tickets_append]
          exact precedes_concat.mpr (.inr ⟨(mem_ticketsOf.mp hu).1, rfl⟩)
        · exact .inl (List.mem_singleton.mp (mem_ticketsOf.mp hu).1)
      case left => exact fun hgone => absurd hgone (standingAfter_ne_gone t)
    · refine (h.owes d hd).append fun hgone => ?_
      rw [hsights, ticketsOf_singleton, if_neg]
      exact fun he => hs.feed_ne_of_due hw hphase hd hgone he.2
  case inOrder =>
    intro u v hfeed hbefore hv
    refine h.inOrder_append hs hs' hfeed hbefore ?_
    simpa [reports] using hv

theorem remain {rest : List (Due ρ)} (h : Posted trace s) (hs : Sound c (sightsOf trace) s)
    (hs' : Sound c (sightsOf trace) s') (hdues : s.dues.Perm (d :: rest))
    (hstanding : d.standing = .ending)
    (hdues' : s'.dues.Perm ({ d with standing := .staying } :: rest))
    (hresults : s'.results = s.results) : Posted trace s' := by
  obtain ⟨hd, hrest⟩ := h.owes_of_perm hdues
  have hstays : Owes trace { d with standing := .staying } :=
    ⟨hd.feed, fun h => absurd rfl h, fun _ => hd.last (by simp [hstanding]), by simp⟩
  have hpairs := (hdues'.map fun d => (d.ticket, d.result)).trans
    (hdues.map fun d => (d.ticket, d.result)).symm
  rw [← List.append_nil trace] at hs' ⊢
  refine h.still hs hs' rfl rfl rfl hresults hpairs fun e he => ?_
  rw [List.append_nil]
  rcases List.mem_cons.mp (hdues'.mem_iff.mp he) with rfl | he
  · exact hstays
  · exact hrest e he

/-- When the worker gives its queue up, all that was submitted of its feed has been handled. -/
theorem retire {result : ρ} {rest : List (Due ρ)} (h : Posted trace s)
    (hs : Sound c (sightsOf trace) s) (hs' : Sound c (sightsOf (trace ++ [.retired t])) s')
    (hw : s.workers[n]? = some w) (hphase : w.phase = .ending t result) (hpending : w.pending = 0)
    (hdues : s.dues.Perm (⟨w.feed, t, result, .ending⟩ :: rest))
    (hdues' : s'.dues.Perm (⟨w.feed, t, result, .gone⟩ :: rest))
    (hresults : s'.results = s.results) : Posted (trace ++ [.retired t]) s' := by
  obtain ⟨hd, hrest⟩ := h.owes_of_perm hdues
  have hpost : w.post = some w.feed := by rw [Worker.post, hphase]; rfl
  have hleft : Owes (trace ++ [.retired t]) ⟨w.feed, t, result, .gone⟩ := by
    refine ⟨hd.feed, fun _ => hd.ends (by simp), by simp, fun _ => ⟨by simp, fun u hu => .inl ?_⟩⟩
    rw [sightsOf_append, ticketsOf_append] at hu
    have hfinished := hs.finished_of_leaving hw hpost (by rw [hphase]; rfl) hpending
      ((List.mem_append.mp hu).resolve_right List.not_mem_nil)
    exact (hd.last (by simp) u hfinished).append _
  have hpairs := (hdues'.map fun d => (d.ticket, d.result)).trans
    (hdues.map fun d => (d.ticket, d.result)).symm
  refine h.still hs hs' rfl rfl rfl hresults hpairs fun e he => ?_
  rcases List.mem_cons.mp (hdues'.mem_iff.mp he) with rfl | he
  · exact hleft
  · exact (hrest e he).append fun _ => rfl

theorem report {rest : List (Due ρ)} (h : Posted trace s) (hs : Sound c (sightsOf trace) s)
    (hs' : Sound c (sightsOf (trace ++ [.reported d.ticket d.result])) s')
    (hdues : s.dues.Perm (d :: rest)) (hdues' : s'.dues.Perm rest)
    (hresults : s'.results = s.results ++ [⟨d.feed, d.result⟩]) :
    Posted (trace ++ [.reported d.ticket d.result]) s' := by
  obtain ⟨hd, hrest⟩ := h.owes_of_perm hdues
  have hreports : reports (trace ++ [.reported d.ticket d.result]) =
      reports trace ++ [(d.ticket, d.result)] := reports_append
  have hsights : sightsOf (trace ++ [.reported d.ticket d.result]) = sightsOf trace :=
    sightsOf_append.trans (List.append_nil _)
  constructor
  case results =>
    rw [hresults, h.results, hreports, List.map_append, hd.feed]
    rfl
  case handled =>
    rw [hsights, ← h.handled]
    exact congrArg _ (finishes_append.trans (List.append_nil _))
  case account =>
    have hperm := (hdues.map fun d => (d.ticket, d.result)).append_left (reports trace)
    have hperm' := (hdues'.map fun d => (d.ticket, d.result)).symm.append_left
      (reports trace ++ [(d.ticket, d.result)])
    rw [hreports]
    refine List.Perm.trans ?_ (h.account.trans (hperm.trans (.trans (.of_eq ?_) hperm')))
    · exact .of_eq (finishes_append.trans (List.append_nil _))
    · rw [List.append_assoc]
      rfl
  case owes =>
    intro e he
    exact (hrest e (hdues'.mem_iff.mp he)).append fun _ => rfl
  case inOrder =>
    intro v u hfeed hbefore hu
    have hmem : d ∈ s.dues := hdues.mem_iff.mpr (.head _)
    rw [hreports, List.map_append, List.mem_append] at hu
    rcases hu with hu | hu
    · exact h.inOrder_append hs hs' hfeed hbefore hu
    · obtain rfl := List.mem_singleton.mp hu
      rw [hsights] at hbefore
      rw [hreports, List.map_append]
      refine (h.reported_or_late hs hmem hfeed hbefore).imp (fun hv => ?_) (·.append _)
      exact precedes_concat.mpr (.inr ⟨hv, rfl⟩)

theorem step (h : Posted trace s) (hs : Sound c (sightsOf trace) s)
    (hs' : Sound c (sightsOf (trace ++ new)) s') (hsettles : Settles s s' new) :
    Posted (trace ++ new) s' := by
  cases hsettles with
  | quiet hfinished hdues hresults => exact h.quiet hs hs' hfinished hdues hresults
  | finish hw hphase hdues hresults => exact h.finish hs hs' hw hphase hdues hresults
  | remain hdues hstanding hdues' hresults =>
      rw [List.append_nil] at hs' ⊢
      exact h.remain hs hs' hdues hstanding hdues' hresults
  | retire hw hphase hpending hdues hdues' hresults =>
      exact h.retire hs hs' hw hphase hpending hdues hdues' hresults
  | report hdues hdues' hresults => exact h.report hs hs' hdues hdues' hresults

open State in
/-- What holds along every history. -/
theorem run {moves : List (Move ρ)} (h : Posted trace s) (hs : Sound c (sightsOf trace) s)
    (hmoves : moveAll? c s moves = some s') : Posted (trace ++ s.trace c moves) s' := by
  induction moves generalizing trace s with
  | nil =>
      obtain rfl := Option.some.inj hmoves
      rw [State.trace, List.append_nil]
      exact h
  | cons m rest ih =>
      obtain ⟨next, hm, hrest⟩ := Option.bind_eq_some_iff.mp hmoves
      have hnext : Sound c (sightsOf (trace ++ s.marks m)) next := by
        rw [sightsOf_append, sightsOf_marks]
        exact hs.step (step_of_move hm)
      have hlast := ih (h.step hs hnext (settles_of_move hm)) hnext hrest
      rw [List.append_assoc] at hlast
      rw [State.trace, hm]
      exact hlast

end Posted

/-- What is reported of the events that are handled. -/
structure Delivered (trace : List (Mark ρ)) (s : State ρ) : Prop where
  /-- The results are those that were reported, in that order. -/
  results : s.results = (reports trace).map fun p => ⟨p.1.event.feed, p.2⟩
  /-- A result is that of an event that was handled. -/
  handled : reports trace ⊆ finishes trace
  /-- No event has two results. -/
  once : ((reports trace).map (·.1)).Nodup
  /-- When all workers have stopped, each event that was handled has its result. -/
  all : (∀ w ∈ s.workers, w.phase.isStopped = true) → (reports trace).Perm (finishes trace)
  /-- Events of a feed that were submitted one after the other are reported in that order, unless
  the first one was the end of the feed and is late. -/
  inOrder (t u : Ticket) : t.event.feed = u.event.feed →
    Precedes (sightsOf trace) ⟨.accepted, t⟩ ⟨.submitted, u⟩ → u ∈ (reports trace).map (·.1) →
    Precedes ((reports trace).map (·.1)) t u ∨ Late trace t u

theorem State.dues_of_stopped {s : State ρ} (h : ∀ w ∈ s.workers, w.phase.isStopped = true) :
    s.dues = [] := by
  refine List.filterMap_eq_nil_iff.mpr fun w hw => ?_
  have hstopped := h w hw
  cases hphase : w.phase with
  | stopped => exact Worker.due?_eq_none hphase rfl
  | _ =>
      rw [hphase] at hstopped
      cases hstopped

/-- However the moves of submitters and workers are interleaved, each event that is handled has one
result, and the results of a feed keep the order of its events but for those that are late. -/
theorem results_delivered (c : Settings.Dispatch) (moves : List (Move ρ)) (s : State ρ)
    (h : State.moveAll? c {} moves = some s) : Delivered (State.trace c {} moves) s := by
  have hposted : Posted (State.trace c {} moves) s := Posted.start.run .start h
  have hsound : Sound c (sightsOf (State.trace c {} moves)) s := by
    rw [State.sightsOf_trace]
    exact Sound.start.run h
  constructor
  case results => exact hposted.results
  case handled =>
    exact fun p hp => hposted.account.mem_iff.mpr (List.mem_append_left _ hp)
  case once => exact (hposted.nodup hsound).of_append_left
  case all =>
    intro hstopped
    have hperm := hposted.account
    rw [State.dues_of_stopped hstopped, List.map_nil, List.append_nil] at hperm
    exact hperm.symm
  case inOrder => exact fun t u => hposted.inOrder

/-- The worker that has handled the end of a feed gives its queue up. The next event of the feed is
handled by another worker, and this one reports first. -/
def overtaking : List (Move String) :=
  [.enroll (.feedDeleted "f"), .enqueue 0, .receive 0, .tell 0, .start 0, .finish 0 "deleted",
   .retire 0,
   .enroll (.feedRejected { feed := "f" }), .enqueue 1, .receive 1, .tell 1, .start 1,
   .finish 1 "rejected", .report 1,
   .report 0]

theorem overtaking_delivered : ∃ s, State.moveAll? {} {} overtaking = some s ∧
    s.results.length = 2 ∧ Delivered (State.trace {} {} overtaking) s :=
  ⟨_, rfl, rfl, results_delivered {} overtaking _ rfl⟩

/-- The second event was submitted after the first one had been accepted, and is reported before
it. -/
theorem overtaking_reversed :
    let first : Ticket := ⟨0, .feedDeleted "f"⟩
    let second : Ticket := ⟨1, .feedRejected { feed := "f" }⟩
    Precedes (State.seen {} {} overtaking) ⟨.accepted, first⟩ ⟨.submitted, second⟩ ∧
      (∃ s, State.moveAll? {} {} overtaking = some s ∧
        s.results = [⟨"f", "rejected"⟩, ⟨"f", "deleted"⟩]) ∧
      reports (State.trace {} {} overtaking) = [(second, "rejected"), (first, "deleted")] := by
  refine ⟨?_, ⟨_, rfl, rfl⟩, rfl⟩
  -- Of the first five sights, these are the second and the last.
  exact .cons _ (.cons_cons _ (.cons _ (.cons _ (.cons_cons _ (List.nil_sublist _)))))

end Newswire.Dispatch
