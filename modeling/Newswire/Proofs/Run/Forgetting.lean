import Newswire.Proofs.Run.Isolation

/-!
# Forgetting a feed

Once a feed has been deleted, its events are handled as if the stores were empty. What is remembered
of other feeds stays as it is.
-/

namespace Newswire

open Delivery (Records Status)

/-- The stores without anything about a feed. -/
def Stores.purged (st : Stores) (feed : String) : Stores where
  fingerprints := (st.fingerprints.delete feed).2
  records := (st.records.delete feed).2
  counters := (st.counters.delete feed).2
  ledger := (st.ledger.purge feed).2
  leases := (st.leases.delete feed).2

namespace Run

variable {feed : String} {events : List String}

/-- A deletion that comes to its end has removed everything about its feed. -/
theorem forget_ok {around : Surroundings} {w v : World}
    (h : carryOut around (forget feed) w = (.ok (), v)) :
    v.stores = w.stores.purged feed ∧ v.sent = w.sent := by
  obtain ⟨_, v₁, h₁, h⟩ := carryOut_bind_ok around h
  obtain ⟨_, v₂, h₂, h⟩ := carryOut_bind_ok around h
  obtain ⟨_, v₃, h₃, h⟩ := carryOut_bind_ok around h
  obtain ⟨_, v₄, h₄, h⟩ := carryOut_bind_ok around h
  obtain ⟨_, v₅, h₅, h⟩ := carryOut_bind_ok around h
  obtain ⟨-, rfl⟩ := carryOut_call_ok around (carryOut_store_ok around h₁)
  obtain ⟨-, rfl⟩ := carryOut_call_ok around (carryOut_store_ok around h₂)
  obtain ⟨-, rfl⟩ := carryOut_call_ok around (carryOut_store_ok around h₃)
  obtain ⟨-, rfl⟩ := carryOut_call_ok around (carryOut_store_ok around h₄)
  obtain ⟨-, rfl⟩ := carryOut_call_ok around (carryOut_store_ok around h₅)
  cases h
  exact ⟨rfl, rfl⟩

theorem handled_deleted {o : Occasion} {w : World} {report : Report}
    (ho : o.event = .feedDeleted feed) (h : (o.handled w).1 = .ok report) :
    (o.handled w).2.stores = w.stores.purged feed ∧ (o.handled w).2.sent = w.sent := by
  rcases hc : o.handled w with ⟨answer, v⟩
  rw [hc] at h
  obtain rfl : answer = .ok report := h
  rw [Occasion.handled, ho] at hc
  obtain ⟨_, u, hforget, hdone⟩ := carryOut_bind_ok o.around hc
  obtain rfl : u = v := congrArg Prod.snd hdone
  exact forget_ok (w := { w with calls := 0 }) hforget

/-- Stores without anything about a feed are to it as if they were empty, as long as no other feed
has records of its events. -/
theorem alike_purged {st : Stores} (hn : st.ledger.Numbered) (ho : Owned feed events st) :
    Alike feed events (st.purged feed) {} where
  fingerprints field value := by
    rw [Stores.purged, Fingerprints.delete_holds, bne_self_eq_false, Bool.false_and]
    rfl
  records := by
    rw [Stores.purged, Records.attempts_delete]
    exact List.filter_eq_nil_iff.mpr fun a ha => by simp [ho.feed_of_mem ha]
  counters scope := by
    rw [Stores.purged, Counters.delete_get?, if_pos rfl]
    rfl
  counts through since := by
    rw [Stores.purged, Quota.Ledger.purge_countSince, if_pos rfl]
    rfl
  numbered := ⟨hn.filter _, Quota.Ledger.numbered_empty⟩
  lease := by
    rw [Stores.purged, Leases.delete, Leases.get?_without]
    rfl

/-- Whatever the stores are asked about a feed, they answer exactly the same. -/
structure Untouched (feed : String) (st tt : Stores) : Prop where
  seen : ∀ field values,
    tt.fingerprints.seen feed field values = st.fingerprints.seen feed field values
  hasField : ∀ field, tt.fingerprints.hasField feed field = st.fingerprints.hasField feed field
  records : tt.records.ofFeed feed = st.records.ofFeed feed
  latest : ∀ limit, tt.records.latest feed limit = st.records.latest feed limit
  count : ∀ status, tt.records.count feed status = st.records.count feed status
  /-- An event is one of the feed when no other feed has records of it. -/
  ofEvent : ∀ event, (∀ x ∈ st.records.rows, x.attempt.event = event → x.attempt.feed = feed) →
    tt.records.ofEvent event = st.records.ofEvent event
  counters : ∀ scope, tt.counters.get? feed scope = st.counters.get? feed scope
  reservations : ∀ through since,
    tt.ledger.countSince feed through since = st.ledger.countSince feed through since
  lease : tt.leases.get? feed = st.leases.get? feed

theorem untouched_purged {other : String} (h : other ≠ feed) (st : Stores) :
    Untouched other st (st.purged feed) := by
  have hholds (field value : String) :
      (st.fingerprints.delete feed).2.holds other field value =
        st.fingerprints.holds other field value := by
    rw [Fingerprints.delete_holds]
    simp [h]
  have hrecords : (st.records.delete feed).2.ofFeed other = st.records.ofFeed other := by
    rw [Records.delete, Records.ofFeed, List.filter_filter, Records.ofFeed]
    apply List.filter_congr
    intro x _
    by_cases hx : x.attempt.feed = other <;> simp [hx, h]
  constructor
  case seen => exact fun field values => List.filter_congr fun value _ => hholds field value
  case hasField =>
    intro field
    rw [Bool.eq_iff_iff, Fingerprints.hasField_iff, Fingerprints.hasField_iff]
    exact exists_congr fun value => by rw [← hholds]; rfl
  case records => exact hrecords
  case latest =>
    intro limit
    rw [Records.latest, Records.latest]
    exact congrArg (fun rows => if limit < 0 then rows.mergeSort Records.newerFirst
      else (rows.mergeSort Records.newerFirst).take limit.toNat) hrecords
  case count =>
    intro status
    rw [Records.count, Records.count]
    exact congrArg (fun rows => (rows.filter fun r => r.attempt.outcome.status == status).length)
      hrecords
  case ofEvent =>
    intro event hevent
    rw [Stores.purged, Records.ofEvent, Records.delete, List.filter_filter, Records.ofEvent]
    refine congrArg _ (List.filter_congr fun x hx => ?_)
    by_cases he : x.attempt.event = event
    · simp [he, hevent x hx he, h]
    · simp [he]
  case counters =>
    intro scope
    rw [Stores.purged, Counters.delete_get?, if_neg h]
  case reservations =>
    intro through since
    rw [Stores.purged, Quota.Ledger.purge_countSince, if_neg h]
  case lease => exact Leases.get?_without_of_ne _ h

section Aftermath

variable {os : List Occasion} {w : World}

theorem numbered_aftermath (hw : w.stores.ledger.Numbered) :
    (aftermath os w).stores.ledger.Numbered := by
  induction os generalizing w with
  | nil => exact hw
  | cons o rest ih => exact ih (numbered_handled o hw)

theorem owned_aftermath
    (hevents : ∀ o ∈ os, ∀ r, o.event = .deliver r → r.id ∈ events → r.feed.id = feed)
    (hw : Owned feed events w.stores) : Owned feed events (aftermath os w).stores := by
  induction os generalizing w with
  | nil => exact hw
  | cons o rest ih =>
      obtain ⟨ho, hrest⟩ := List.forall_mem_cons.mp hevents
      exact ih hrest (owned_handled ho hw)

theorem Occasion.handled_sent (o : Occasion) (w : World) :
    (o.handled w).2.sent = w.sent ++ (o.upshot w).messages := by
  obtain ⟨ms, hms⟩ := Plan.exists_sent o.around (handle o.setup o.event).run { w with calls := 0 }
  have hms : (o.handled w).2.sent = w.sent ++ ms := hms
  rw [Occasion.upshot, hms, List.drop_left]

/-- Where all events are those of the feed, all messages are. -/
theorem aftermath_sent (hof : ∀ o ∈ os, o.isOf feed = true) :
    (aftermath os w).sent = w.sent ++ messagesOf feed os w := by
  induction os generalizing w with
  | nil => exact (List.append_nil _).symm
  | cons o rest ih =>
      obtain ⟨ho, hrest⟩ := List.forall_mem_cons.mp hof
      have hmessages : messagesOf feed (o :: rest) w =
          (o.upshot w).messages ++ messagesOf feed rest (o.handled w).2 := by
        rw [messagesOf, upshotsOf, if_pos ho]
        rfl
      rw [hmessages, ← List.append_assoc, ← Occasion.handled_sent]
      exact ih hrest

end Aftermath

/-- Once a feed has been deleted, its events come to what they come to with empty stores, whatever
had been handled before, provided that no other feed used the identifiers of these events. Of other
feeds the stores say what they said before. -/
theorem deleted_feed_forgotten (feed : String) (earlier later : List Occasion) (o : Occasion)
    (report : Report) (ho : o.event = .feedDeleted feed)
    (hok : (o.handled (aftermath earlier {})).1 = .ok report)
    (hof : ∀ p ∈ later, p.isOf feed = true)
    (hids : ∀ p ∈ later, ∀ q ∈ earlier, ∀ r t, p.event = .deliver r → q.event = .deliver t →
      r.id = t.id → t.feed.id = feed) :
    let before := aftermath earlier {}
    let deleted := (o.handled before).2
    let blank := { deleted with stores := {} }
    upshotsOf feed later deleted = upshotsOf feed later blank ∧
      AnswersAlike feed (eventsOf feed later) (aftermath later deleted).stores
        (aftermath later blank).stores ∧
      ∀ other, other ≠ feed → Untouched other before.stores deleted.stores := by
  intro before deleted blank
  have hnumbered : before.stores.ledger.Numbered := numbered_aftermath Quota.Ledger.numbered_empty
  have howned : Owned feed (eventsOf feed later) before.stores := by
    refine owned_aftermath (fun q hq t ht hid => ?_) fun _ hx => nomatch hx
    obtain ⟨p, hp, r, hr, -, hrid⟩ := mem_eventsOf.mp hid
    exact hids p hp q hq r t hr ht hrid
  obtain ⟨hstores, -⟩ := handled_deleted ho hok
  have hstores : deleted.stores = before.stores.purged feed := hstores
  have halike : Alike feed (eventsOf feed later) deleted.stores blank.stores :=
    hstores ▸ alike_purged hnumbered howned
  have howned : Owned feed (eventsOf feed later) deleted.stores := by
    rw [hstores]
    exact fun x hx => howned x (List.mem_filter.mp hx).1
  have hfeed {p : Occasion} {r : Refresh} (hp : p ∈ later) (hr : p.event = .deliver r) :
      r.feed.id = feed := by
    have hisOf := hof p hp
    simpa [Occasion.isOf, hr, Event.Input.feed] using hisOf
  have hmarks : Marks feed (eventsOf feed later) later :=
    marks_eventsOf fun p hp q hq r t hr ht _ => (hfeed hp hr).trans (hfeed hq ht).symm
  have hdiscreet : Discreet feed later deleted blank.sent := by
    intro pre p post hsplit _ ms m
    have hpre : ∀ q ∈ pre, q.isOf feed = true := fun q hq =>
      hof q (hsplit ▸ List.mem_append_left _ hq)
    rw [aftermath_sent hpre]
  have hsame := upshotsOf_own hmarks halike howned hdiscreet
  rw [List.filter_eq_self.mpr hof] at hsame
  refine ⟨hsame.1, hsame.2.answers, fun other hother => ?_⟩
  rw [hstores]
  exact untouched_purged hother before.stores

/-- An event of a feed and then one of another feed, whose articles nobody accepts. -/
def forgottenOccasions : List Occasion :=
  [{ event := .deliver (sampleEvent ["x"] [newsConnection "a"]), setup := sampleSetup },
   { event := .deliver neighbourEvent, setup := sampleSetup
     around := { receiver := refusing "a" } }]

/-- The event that had been handled before the deletion is delivered afresh after it. -/
theorem forgotten_after_deletion :
    let again : List Occasion :=
      [{ event := .deliver (sampleEvent ["x"] [newsConnection "a"]), setup := sampleSetup }]
    let before := aftermath forgottenOccasions {}
    let deleted := (Occasion.handled { event := .feedDeleted "f" } before).2
    let blank := { deleted with stores := {} }
    (messagesOf "f" again deleted).length = 1 ∧
      upshotsOf "f" again deleted = upshotsOf "f" again blank ∧
      AnswersAlike "f" (eventsOf "f" again) (aftermath again deleted).stores
        (aftermath again blank).stores ∧
      ∀ other, other ≠ "f" → Untouched other before.stores deleted.stores := by
  intro again before deleted blank
  refine ⟨by decide +kernel, ?_⟩
  refine deleted_feed_forgotten "f" forgottenOccasions again { event := .feedDeleted "f" } {} rfl
    (by decide +kernel) (fun p hp => ?_) fun p hp q hq r t hr ht hid => ?_
  · rw [List.mem_singleton.mp hp]
    decide
  · obtain rfl := List.mem_singleton.mp hp
    simp only [forgottenOccasions, List.mem_cons, List.not_mem_nil, or_false] at hq
    obtain rfl | rfl := hq <;> cases hr <;> cases ht
    · rfl
    · exact absurd hid (by decide)

end Run

end Newswire
