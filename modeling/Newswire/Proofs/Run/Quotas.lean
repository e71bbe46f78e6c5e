import Newswire.Proofs.Run.Reservations

/-!
# Quotas over histories

The deliveries of a feed keep to its limit on every day, through any events that do not delete the
feed, whatever befalls the runs and whatever clock they go by. What counts are the times that are
stored, in whole milliseconds. Two deliveries with less than a day between them may be stored a
whole day apart, so that by the clock it is only in a millisecond less than a day that there are
never more.
-/

namespace Newswire.Run

/-- When the deliveries of a feed were made that an event came to. -/
def Occasion.deliveries (o : Occasion) (feed : String) (w : World) : List Instant :=
  match o.event with
  | .deliver r => Run.deliveries feed o.setup r (tour o.around o.setup r w)
  | _ => []

/-- When the deliveries of a feed were made that came of events handled one after the other. -/
def deliveriesIn (feed : String) : List Occasion → World → List Instant
  | [], _ => []
  | o :: rest, w => o.deliveries feed w ++ deliveriesIn feed rest (o.after w)

/-- Deliveries that are covered stay so. -/
def KeepsCovers (feed : String) (daily : Nat) (s t : Stores) : Prop :=
  ∀ times, s.ledger.Covers feed daily times → t.ledger.Covers feed daily times

instance (feed : String) (daily : Nat) : IsPreorder Stores (KeepsCovers feed daily) where
  refl _ _ h := h
  trans _ _ _ hst htu times h := htu times (hst times h)

/-- No number of a reservation comes to be given out twice. -/
def KeepsNumbered (s t : Stores) : Prop := s.ledger.Numbered → t.ledger.Numbered

instance : IsPreorder Stores KeepsNumbered where
  refl _ h := h
  trans _ _ _ hst htu h := htu (hst h)

variable {feed : String} {daily : Nat}

theorem numbered_after (o : Occasion) {w : World} (hw : w.stores.ledger.Numbered) :
    (o.after w).stores.ledger.Numbered := by
  refine after_relates (R := KeepsNumbered) o w (fun r he => ?_) (fun feed _ => ?_)
    (fun _ _ _ _ h => h) hw
  · rw [Occasion.after, he]
    obtain ⟨u, x, course⟩ := handle_course o.around o.setup r w
    have hstart : u.stores.ledger = w.stores.ledger := course.start_ledger
    intro hn
    rw [course.finish.2]
    exact course.linked.numbered (hstart ▸ hn)
  · exact forget_silent feed (fun _ h => h) (fun _ h => h) (fun _ h => h) (fun _ h => h.filter _)
      fun _ h => h

theorem numbered_history (os : List Occasion) {w : World} (hw : w.stores.ledger.Numbered) :
    (history os w).stores.ledger.Numbered := by
  induction os generalizing w with
  | nil => exact hw
  | cons o rest ih => exact ih (numbered_after o hw)

theorem covers_handle (around : Surroundings) (s : Setup) (r : Refresh) {w : World}
    {times : List Instant} (hc : w.stores.ledger.Covers feed daily times)
    (hlimit : r.feed.id = feed → r.feed.dailyLimit.getD s.settings.dailyLimit ≤ daily) :
    (carryOut around (handle s (.deliver r)) w).2.stores.ledger.Covers feed daily
      (times ++ deliveries feed s r (tour around s r w)) := by
  obtain ⟨u, x, course⟩ := handle_course around s r w
  have hstart : u.stores.ledger = w.stores.ledger := course.start_ledger
  rw [course.finish.2]
  exact course.linked.covers (hstart ▸ hc) hlimit

theorem covers_after (o : Occasion) {w : World} {times : List Instant}
    (hn : o.event ≠ .feedDeleted feed)
    (hlimit : ∀ r, o.event = .deliver r → r.feed.id = feed →
      r.feed.dailyLimit.getD o.setup.settings.dailyLimit ≤ daily)
    (hc : w.stores.ledger.Covers feed daily times) :
    (o.after w).stores.ledger.Covers feed daily (times ++ o.deliveries feed w) := by
  obtain ⟨event, s, around⟩ := o
  cases event with
  | deliver r => exact covers_handle around s r hc (hlimit r rfl)
  | feedDeleted other =>
      have hne : other ≠ feed := fun h => hn (by rw [h])
      have hs : Silent (KeepsCovers feed daily) (handle s (.feedDeleted other)) :=
        .bind (forget_silent other (fun _ _ h => h) (fun _ _ h => h) (fun _ _ h => h)
          (fun _ _ h => h.purge hne) fun _ _ h => h) fun _ => .pure _
      rw [Occasion.deliveries, List.append_nil]
      exact (hs.carryOut around w).1 times hc
  | feedRejected r =>
      have hs : Silent (KeepsCovers feed daily) (takeRebuff s r) :=
        takeRebuff_silent s r fun _ _ _ h => h
      rw [Occasion.deliveries, List.append_nil]
      exact (hs.carryOut around w).1 times hc

theorem covers_history (os : List Occasion) {w : World} {times : List Instant}
    (hn : ∀ o ∈ os, o.event ≠ .feedDeleted feed)
    (hlimit : ∀ o ∈ os, ∀ r, o.event = .deliver r → r.feed.id = feed →
      r.feed.dailyLimit.getD o.setup.settings.dailyLimit ≤ daily)
    (hc : w.stores.ledger.Covers feed daily times) :
    (history os w).stores.ledger.Covers feed daily (times ++ deliveriesIn feed os w) := by
  induction os generalizing w times with
  | nil =>
      rw [deliveriesIn, List.append_nil]
      exact hc
  | cons o rest ih =>
      have ho := covers_after o (hn o (List.mem_cons_self ..)) (hlimit o (List.mem_cons_self ..)) hc
      rw [deliveriesIn, ← List.append_assoc]
      exact ih (fun p hp => hn p (List.mem_cons_of_mem _ hp))
        (fun p hp => hlimit p (List.mem_cons_of_mem _ hp)) ho

/-- What a run adds to the ledger, if no reservation fails to be given back: one reservation for
each errand that it sent something for, and none for any other. -/
structure Reserves (around : Surroundings) (s : Setup) (r : Refresh) (w w' : World) : Prop where
  errands : (tour around s r w).map Visit.errand <+: errands r (selected s r w.stores.fingerprints)
  sent : w'.sent = w.sent ++ (tour around s r w).flatMap Visit.sent
  reserved : ∃ new : List Quota.Reservation,
    w'.stores.ledger.rows = w.stores.ledger.rows ++ new ∧
      new.map (fun x => (x.feed, x.connection, x.time)) =
        ((tour around s r w).filter Visit.isDispatched).map fun v =>
          (r.feed.id, v.errand.connection.id, s.now.millis)

theorem handle_reserves (around : Surroundings) (s : Setup) (r : Refresh) {w : World}
    (hn : w.stores.ledger.Numbered)
    (hr : .release ∉ unanswered around (handle s (.deliver r)) w) :
    Reserves around s r w (carryOut around (handle s (.deliver r)) w).2 := by
  obtain ⟨u, x, course⟩ := handle_course around s r w
  have hstart : u.stores.ledger = w.stores.ledger := course.start_ledger
  have hfailing : ∀ v ∈ tour around s r w, .release ∉ unanswered around
      (visit s r (w.stores.records.ofEvent r.id) v.rejected v.errand) v.before :=
    fun v hv hf => hr (course.failing v hv hf)
  obtain ⟨new, hrows, hnew⟩ := course.linked.reserved (hstart ▸ hn) hfailing
  constructor
  · exact tour_errands around s r w
  · exact handle_sent around s r w
  · exact ⟨new, by rw [course.finish.2, hrows, hstart], hnew⟩

/-- In a ledger that gives no number out twice, the reservations that a run adds are those of the
errands for which it sent something; and over any events that do not delete a feed, no day holds
more of its deliveries than the greatest of its limits, as their times are stored, nor does a
millisecond less than a day by the clock of the runs. -/
theorem quotas_kept (w : World) (hw : w.stores.ledger.Numbered) :
    (∀ around s r, .release ∉ unanswered around (handle s (.deliver r)) w →
      Reserves around s r w (carryOut around (handle s (.deliver r)) w).2) ∧
    ∀ os : List Occasion, (history os w).stores.ledger.Numbered ∧
      ∀ feed daily, (∀ o ∈ os, o.event ≠ .feedDeleted feed) →
        (∀ o ∈ os, ∀ r, o.event = .deliver r → r.feed.id = feed →
          r.feed.dailyLimit.getD o.setup.settings.dailyLimit ≤ daily) →
        ∀ t, Quota.inDay t ((deliveriesIn feed os w).map Instant.stored) ≤ daily ∧
          (deliveriesIn feed os w).countP (fun x => t.ago 86399999 ≤ x && x ≤ t) ≤ daily := by
  constructor
  · intro around s r hr
    exact handle_reserves around s r hw hr
  · intro os
    refine ⟨numbered_history os hw, fun feed daily hn hlimit t => ?_⟩
    have hcovers := covers_history os hn hlimit (w.stores.ledger.covers_nil feed daily)
    exact ⟨hcovers.bounded t,
      (Quota.countP_le_inDay_stored t _).trans (hcovers.bounded t.stored)⟩

/-- An event of a feed that may deliver once a day. -/
def limitedEvent (hashes : List String) : Refresh :=
  let r := sampleEvent hashes [newsConnection "a"]
  { r with feed := { r.feed with dailyLimit := some 1 } }

/-- One of two articles is delivered, another feed is deleted, and a run whose clock is behind finds
the day full. -/
def limitedOccasions : List Occasion :=
  [{ event := .deliver (limitedEvent ["x", "y"]), setup := sampleSetup },
   { event := .feedDeleted "g" },
   { event := .deliver (limitedEvent ["z"])
     setup := { sampleSetup with now := .ofMillis (-1), holder := "second" } }]

theorem quotas_of_limitedEvent :
    .release ∉ unanswered {} (handle sampleSetup (.deliver (limitedEvent ["x", "y"]))) {} ∧
      Reserves {} sampleSetup (limitedEvent ["x", "y"]) {}
        (carryOut {} (handle sampleSetup (.deliver (limitedEvent ["x", "y"]))) {}).2 ∧
      deliveriesIn "f" limitedOccasions {} = [⟨0⟩] ∧
      Quota.inDay ⟨0⟩ ((deliveriesIn "f" limitedOccasions {}).map Instant.stored) ≤ 1 ∧
      (deliveriesIn "f" limitedOccasions {}).countP
        (fun x => Instant.ago ⟨0⟩ 86399999 ≤ x && x ≤ ⟨0⟩) ≤ 1 := by
  have hr : .release ∉
      unanswered {} (handle sampleSetup (.deliver (limitedEvent ["x", "y"]))) {} := by
    decide +kernel
  have hn : ∀ o ∈ limitedOccasions, o.event ≠ .feedDeleted "f" := by
    simp [limitedOccasions]
  have hlimit : ∀ o ∈ limitedOccasions, ∀ r, o.event = .deliver r → r.feed.id = "f" →
      r.feed.dailyLimit.getD o.setup.settings.dailyLimit ≤ 1 := by
    simp [limitedOccasions, limitedEvent]
  exact ⟨hr, (quotas_kept {} Quota.Ledger.numbered_empty).1 _ _ _ hr, by decide +kernel,
    ((quotas_kept {} Quota.Ledger.numbered_empty).2 limitedOccasions).2 "f" 1 hn hlimit ⟨0⟩⟩

/-- Two runs less than a day apart, each in the middle of a millisecond. -/
def hastyOccasions : List Occasion :=
  [{ event := .deliver (limitedEvent ["x"])
     setup := { settings := sampleSetup.settings, now := ⟨900000⟩, holder := "first" } },
   { event := .deliver (limitedEvent ["y"])
     setup := { settings := sampleSetup.settings, now := ⟨86400000500000⟩, holder := "second" } }]

/-- By the clock of the runs both deliver within the day that may hold one. -/
theorem quotas_exceeded :
    Quota.Ledger.Numbered {} ∧ (∀ o ∈ hastyOccasions, o.event ≠ .feedDeleted "f") ∧
      (∀ o ∈ hastyOccasions, ∀ r, o.event = .deliver r → r.feed.id = "f" →
        r.feed.dailyLimit.getD o.setup.settings.dailyLimit ≤ 1) ∧
      deliveriesIn "f" hastyOccasions {} = [⟨900000⟩, ⟨86400000500000⟩] ∧
      Quota.inDay ⟨86400000500000⟩ (deliveriesIn "f" hastyOccasions {}) = 2 := by
  refine ⟨Quota.Ledger.numbered_empty, by simp [hastyOccasions], ?_, ?_, ?_⟩
  · simp [hastyOccasions, limitedEvent]
  · decide +kernel
  · decide +kernel

end Newswire.Run
