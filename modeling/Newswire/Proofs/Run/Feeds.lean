import Newswire.Proofs.Rejection.Counters
import Newswire.Proofs.Run.Matching
import Newswire.Proofs.Run.Stages

/-!
# What is remembered of a feed

Two stores are alike in a feed when they say the same about it. Whatever event of the feed comes
next, it is then handled in the same way, call by call, and leaves the stores alike.
-/

namespace Newswire

open Delivery (Attempt Records)

namespace Run

/-- The attempt is one of the feed, or one that an event of the feed meets by its identifier. -/
def isMet (feed : String) (events : List String) (a : Attempt) : Bool :=
  a.feed == feed || events.contains a.event

/-- The stores say the same about a feed, of whose events these are the identifiers. -/
structure Alike (feed : String) (events : List String) (st tt : Stores) : Prop where
  fingerprints : ∀ field value,
    st.fingerprints.holds feed field value = tt.fingerprints.holds feed field value
  records : st.records.attempts (isMet feed events) = tt.records.attempts (isMet feed events)
  counters : ∀ scope, st.counters.get? feed scope = tt.counters.get? feed scope
  counts : ∀ through since,
    st.ledger.countSince feed through since = tt.ledger.countSince feed through since
  numbered : st.ledger.Numbered ∧ tt.ledger.Numbered
  lease : st.leases.get? feed = tt.leases.get? feed

/-- Nothing is asked of what is sent for a feed. -/
abbrev Anything : Sending → Prop := fun _ => True

variable {feed : String} {events : List String}

namespace Alike

variable {st tt uu : Stores}

theorem refl (feed : String) (events : List String) (h : st.ledger.Numbered) :
    Alike feed events st st := ⟨fun _ _ => rfl, rfl, fun _ => rfl, fun _ _ => rfl, ⟨h, h⟩, rfl⟩

theorem symm (h : Alike feed events st tt) : Alike feed events tt st where
  fingerprints field value := (h.fingerprints field value).symm
  records := h.records.symm
  counters scope := (h.counters scope).symm
  counts through since := (h.counts through since).symm
  numbered := h.numbered.symm
  lease := h.lease.symm

theorem trans (h : Alike feed events st tt) (h' : Alike feed events tt uu) :
    Alike feed events st uu where
  fingerprints field value := (h.fingerprints field value).trans (h'.fingerprints field value)
  records := h.records.trans h'.records
  counters scope := (h.counters scope).trans (h'.counters scope)
  counts through since := (h.counts through since).trans (h'.counts through since)
  numbered := ⟨h.numbered.1, h'.numbered.2⟩
  lease := h.lease.trans h'.lease

variable (h : Alike feed events st tt)

include h

theorem hasField (field : String) :
    st.fingerprints.hasField feed field = tt.fingerprints.hasField feed field := by
  rw [Bool.eq_iff_iff, Fingerprints.hasField_iff, Fingerprints.hasField_iff]
  exact exists_congr fun value => by rw [h.fingerprints]

theorem seen (field : String) (values : List String) :
    st.fingerprints.seen feed field values = tt.fingerprints.seen feed field values :=
  List.filter_congr fun value _ => h.fingerprints field value

/-- What an event of the feed has recorded is the same. -/
theorem ofEvent {event : String} (he : event ∈ events) :
    st.records.ofEvent event = tt.records.ofEvent event := by
  have hmet (rs : Records) : rs.ofEvent event =
      ((rs.attempts (isMet feed events)).filter (·.event == event)).map fun a =>
        (a.connection, a.article) := by
    rw [Records.attempts, List.filter_filter, List.filter_map, List.map_map, Records.ofEvent]
    refine congrArg _ (List.filter_congr fun x _ => ?_)
    by_cases hx : x.attempt.event = event <;> simp [isMet, hx, he]
  rw [hmet, hmet, h.records]

theorem isFree (holder : String) (now : Instant) :
    st.leases.isFree feed holder now = tt.leases.isFree feed holder now := by
  rw [Leases.isFree, Leases.isFree, h.lease]

theorem insertAll (new : List Fingerprint) :
    Alike feed events { st with fingerprints := (st.fingerprints.insertAll new).2 }
      { tt with fingerprints := (tt.fingerprints.insertAll new).2 } := by
  refine { h with fingerprints := fun field value => ?_ }
  rw [Bool.eq_iff_iff, Fingerprints.insertAll_holds_iff, Fingerprints.insertAll_holds_iff,
    h.fingerprints]

theorem insertNew {a : Attempt} (ha : a.feed = feed) (he : a.event ∈ events) :
    (st.records.insertNew a).1 = (tt.records.insertNew a).1 ∧
      Alike feed events { st with records := (st.records.insertNew a).2 }
        { tt with records := (tt.records.insertNew a).2 } := by
  have hkey : ∀ b : Attempt, b.matchesKey a = true → isMet feed events b = true := by
    intro b hb
    simp only [Attempt.matchesKey, Bool.and_eq_true, beq_iff_eq] at hb
    simp [isMet, hb.1.1, he]
  obtain ⟨hadded, hrecords⟩ := Records.insertNew_alike hkey (by simp [isMet, ha]) h.records
  exact ⟨hadded, { h with records := hrecords }⟩

theorem increment (scope : Scope) (now : Int) :
    (st.counters.increment feed scope now).1 = (tt.counters.increment feed scope now).1 ∧
      Alike feed events { st with counters := (st.counters.increment feed scope now).2 }
        { tt with counters := (tt.counters.increment feed scope now).2 } := by
  obtain ⟨hcount, hget⟩ := Counters.increment_alike (h.counters scope) now
  refine ⟨hcount, { h with counters := fun other => ?_ }⟩
  by_cases ho : other = scope
  · subst ho
    exact hget
  · rw [Counters.increment_get?_of_ne _ fun _ => ho, Counters.increment_get?_of_ne _ fun _ => ho]
    exact h.counters other

theorem reset (now : Int) :
    Alike feed events { st with counters := (st.counters.reset feed now).2 }
      { tt with counters := (tt.counters.reset feed now).2 } := by
  refine { h with counters := fun scope => ?_ }
  rw [Counters.reset_get?, Counters.reset_get?, h.counters]

theorem acquire (holder : String) (now : Instant) (seconds : Nat) :
    (st.leases.acquire feed holder now seconds).1 = (tt.leases.acquire feed holder now seconds).1 ∧
      Alike feed events { st with leases := (st.leases.acquire feed holder now seconds).2 }
        { tt with leases := (tt.leases.acquire feed holder now seconds).2 } := by
  have hacquired (ls : Leases) :
      (ls.acquire feed holder now seconds).1 = ls.isFree feed holder now :=
    ls.acquireFor_granted feed holder now _
  constructor
  · rw [hacquired, hacquired, h.isFree]
  · refine { h with lease := ?_ }
    rw [Leases.acquire_get?, Leases.acquire_get?, h.isFree, h.lease]

theorem release (holder : String) :
    Alike feed events { st with leases := (st.leases.release feed holder).2 }
      { tt with leases := (tt.leases.release feed holder).2 } := by
  refine { h with lease := ?_ }
  rw [Leases.release_get?, Leases.release_get?, h.lease]

end Alike

section Choice

variable (p : Fingerprint.Policy)

theorem seenValues_same (field : String) (values : List String) :
    Same Anything (Alike feed events) (Store.seenValues feed field values) := by
  refine .ite (.pure []) ?_
  exact .ask fun st tt h => h.seen field values

theorem keepM_same {α : Type} {R : Stores → Stores → Prop} {test : α → Store.Action Bool}
    (h : ∀ a, Same Anything R (test a)) (as : List α) :
    Same Anything R (Selection.keepM test as) := by
  induction as with
  | nil => exact .pure []
  | cons a rest ih => exact .bind (h a) fun keep => .bind ih fun kept => .pure _

theorem anySeen_same (a : Article) (names : List String) :
    Same Anything (Alike feed events) (Selection.anySeen p feed a names) := by
  induction names with
  | nil => exact .pure false
  | cons name rest ih =>
      unfold Selection.anySeen
      split
      · exact ih
      · exact .bind (seenValues_same _ _) fun found => .ite ih (.pure true)

/-- The same is chosen from stores that are alike in the feed. -/
theorem choose_same (articles : List Article) (o : Selection.Options) (now : Instant) :
    Same Anything (Alike feed events) (Selection.choose p feed articles o now) := by
  have hfield (name : String) : Same Anything (Alike feed events) (Store.hasField feed name) :=
    .ask fun st tt h => h.hasField name
  refine .ite (.pure _) (.bind (hfield _) fun hasPrior => .ite (.pure _) ?_)
  apply Same.bind (keepM_same hfield _)
  intro active
  apply Same.bind (seenValues_same _ _)
  intro seenIds
  apply Same.bind (keepM_same (fun a => .map _ (anySeen_same p a _)) _)
  intro unblocked
  refine .bind (keepM_same (fun a => .ite (.map _ (anySeen_same p a _)) (.pure false)) _)
    fun changed => ?_
  exact .pure _

end Choice

section Deliver

variable {s : Setup} {r : Refresh} (hr : r.id ∈ events)

include hr

theorem opening_same : Same Anything (Alike r.feed.id events) (opening s r) := by
  apply Same.bind (.store _ (choose_same _ _ _ _))
  intro selection
  refine .bind (.ite (.pure _) (.store _ (.ask fun st tt h => ?_))) fun recorded => .pure _
  exact h.ofEvent hr

theorem errand_respected (e : Errand) : e.Respected s r (Alike r.feed.id events) := by
  constructor
  · intro outcome st tt h
    exact h.insertNew rfl hr
  · intro st tt h
    exact h.increment _ s.now.millis

omit hr in
theorem errand_admitted (e : Errand) :
    e.Admitted s r (Alike r.feed.id events) (Alike r.feed.id events) := by
  refine .of_counts (fun st tt h => h) (fun st tt h => by rw [h.counts])
    (fun st tt h => h.counts _) fun st tt h => ?_
  obtain ⟨hleft, hright⟩ := h.numbered
  constructor
  · refine { h with counts := fun through since => ?_, numbered := ?_ }
    · rw [Quota.Ledger.countSince_enter, Quota.Ledger.countSince_enter, h.counts]
    · exact ⟨hleft.enter _ _ _, hright.enter _ _ _⟩
  · refine { h with counts := fun through since => ?_, numbered := ?_ }
    · rw [hleft.countSince_release_enter, hright.countSince_release_enter, h.counts]
    · exact ⟨(hleft.enter _ _ _).filter _, (hright.enter _ _ _).filter _⟩

omit hr in
theorem closing_same (selection : Selection) (fates : List (Errand × Fate)) :
    Same Anything (Alike r.feed.id events) (closing s r selection fates) := by
  have hcommit : Matches Anything (Alike r.feed.id events) (Selection.commit selection.pending)
      (Selection.commit selection.pending) (fun _ _ => Alike r.feed.id events)
      (Alike r.feed.id events) := by
    unfold Selection.commit
    split
    · exact .pure fun _ _ h => h
    · exact .call (fun st tt h => h.insertAll _) fun _ _ h => h
  have hreset : Same Anything (Alike r.feed.id events) (Backoff.succeed r.feed.id s.now) :=
    .bind_unit (.call (fun st tt h => h.reset s.now.millis) fun _ _ h => h) (.pure _)
  refine .bind_unit (.store _ hcommit) ?_
  split
  · exact .bind (.store _ hreset) fun _ => .pure _
  · exact .pure _

theorem deliver_same : Same Anything (Alike r.feed.id events) (deliver s r) := by
  rw [deliver_eq]
  refine .bind (opening_same hr) fun ⟨selection, recorded⟩ => ?_
  refine .bind (attemptAll_same (fun e _ => ?_) _) fun fates => closing_same selection fates
  exact ⟨errand_respected hr e, errand_admitted e, fun _ => trivial⟩

/-- An event that delivers is handled in the same way from stores that are alike in its feed. -/
theorem handle_deliver_same : Same Anything (Alike r.feed.id events) (handle s (.deliver r)) := by
  apply Same.bind (.store _ (.call fun st tt h => h.acquire ..))
  intro taken
  split
  · exact .lastly (deliver_same hr) (.store _ (.call (fun _ _ h => h.release _) fun _ _ h => h))
  · exact .throw _

end Deliver

/-- A feed is forgotten in the same way by stores that are alike in it. -/
theorem forget_same : Same Anything (Alike feed events) (forget feed) := by
  have step {kind : Store.Kind} {effect : Stores → Nat × Stores} (name : String)
      (h : ∀ st tt, Alike feed events st tt → Alike feed events (effect st).2 (effect tt).2) :
      Matches Anything (Alike feed events) (store name (Store.call kind effect))
        (store name (Store.call kind effect)) (fun _ _ => Alike feed events)
        (Alike feed events) := .store _ (.call h fun _ _ h => h)
  refine .bind_unit (step _ fun st tt h => { h with fingerprints := fun field value => ?_ }) ?_
  · rw [Fingerprints.delete_holds, Fingerprints.delete_holds, h.fingerprints]
  refine .bind_unit (step _ fun st tt h => { h with counters := fun scope => ?_ }) ?_
  · rw [Counters.delete_get?, Counters.delete_get?, h.counters]
  refine .bind_unit (step _ fun st tt h => { h with records := ?_ }) ?_
  · rw [Records.attempts_delete, Records.attempts_delete, h.records]
  refine .bind_unit (step _ fun st tt h =>
    { h with counts := fun through since => ?_, numbered := ?_ }) ?_
  · rw [Quota.Ledger.purge_countSince, Quota.Ledger.purge_countSince, h.counts]
  · exact ⟨h.numbered.1.filter _, h.numbered.2.filter _⟩
  refine .bind_unit (step _ fun st tt h => { h with lease := ?_ }) (.pure _)
  · rw [Leases.delete, Leases.delete, Leases.get?_without, Leases.get?_without]

theorem takeRebuff_same (s : Setup) (r : Rebuff) :
    Same Anything (Alike r.feed events) (takeRebuff s r) := by
  have hregister (x : Rejection) : Same Anything (Alike r.feed events)
      (Backoff.register s.settings.threshold r.feed (.ofConnection? r.connection) x s.now) :=
    .bind (.withScope (.call fun st tt h => h.increment _ _)) fun _ => .pure _
  refine .bind (.bind ?_ fun x => .store _ (hregister x)) fun _ => .pure _
  cases Rejection.parse r.code with
  | error err => exact .throw err
  | ok x => exact .pure x

/-- An event is handled in the same way from stores that are alike in its feed. -/
theorem handle_same (s : Setup) {e : Event.Input} (hfeed : e.feed = feed)
    (hevents : ∀ r, e = .deliver r → r.id ∈ events) :
    Same Anything (Alike feed events) (handle s e) := by
  subst hfeed
  cases e with
  | deliver r => exact handle_deliver_same (hevents r rfl)
  | feedDeleted feed => exact .bind forget_same fun _ => .pure _
  | feedRejected r => exact takeRebuff_same s r

end Run

end Newswire
