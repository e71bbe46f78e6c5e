import Newswire.Proofs.Run.Tours

/-!
# Histories

Events are handled one after the other, each in its own surroundings, and any of the runs may break
off anywhere. A record stays what it is until an event that deletes its feed removes it, and as long
as it is there nothing more is sent for it.
-/

namespace Newswire

open Delivery (Record Records)

namespace Run

/-- An event, with how and where it is handled. -/
structure Occasion where
  event : Event.Input
  setup : Setup := {}
  around : Surroundings := {}

/-- What is left after an event was handled, whether or not the run came to its end. -/
def Occasion.after (o : Occasion) (w : World) : World :=
  (carryOut o.around (handle o.setup o.event) w).2

/-- What is left after events were handled one after the other. -/
def history (os : List Occasion) (w : World) : World := os.foldl (fun w o => o.after w) w

theorem history_append (os rest : List Occasion) (w : World) :
    history (os ++ rest) w = history rest (history os w) := List.foldl_append

/-- Records other than those of a feed are kept. -/
def KeepsBut (feed : String) (s t : Stores) : Prop :=
  ∀ x ∈ s.records.rows, x.attempt.feed ≠ feed → x ∈ t.records.rows

instance (feed : String) : IsPreorder Stores (KeepsBut feed) where
  refl _ _ hx _ := hx
  trans _ _ _ hst htu x hx hf := htu x (hst x hx hf) hf

/-- No two records come to have the same key. -/
def KeepsDistinct (s t : Stores) : Prop := s.records.Distinct → t.records.Distinct

instance : IsPreorder Stores KeepsDistinct where
  refl _ h := h
  trans _ _ _ hst htu h := htu (hst h)

/-- What is remembered of a feed is deleted, table by table. -/
theorem forget_silent {R : Stores → Stores → Prop} (feed : String)
    (hf : ∀ st, R st { st with fingerprints := (st.fingerprints.delete feed).2 })
    (hc : ∀ st, R st { st with counters := (st.counters.delete feed).2 })
    (hr : ∀ st, R st { st with records := (st.records.delete feed).2 })
    (hp : ∀ st, R st { st with ledger := (st.ledger.purge feed).2 })
    (hl : ∀ st, R st { st with leases := (st.leases.delete feed).2 }) :
    Silent R (forget feed) := by
  refine .bind (.store _ (.call hf)) fun _ => ?_
  refine .bind (.store _ (.call hc)) fun _ => ?_
  refine .bind (.store _ (.call hr)) fun _ => ?_
  refine .bind (.store _ (.call hp)) fun _ => ?_
  exact .bind (.store _ (.call hl)) fun _ => .pure _

theorem takeRebuff_silent {R : Stores → Stores → Prop} (s : Setup) (r : Rebuff)
    (hc : ∀ st scope,
      R st { st with counters := (st.counters.increment r.feed scope s.now.millis).2 }) :
    Silent R (takeRebuff s r) := by
  have hregister (x : Rejection) : Silent R
      (Backoff.register s.settings.threshold r.feed (.ofConnection? r.connection) x s.now) :=
    .bind (.withScope (.call fun st => hc st _)) fun _ => .pure _
  refine .bind (.bind ?_ fun x => .store _ (hregister x)) fun _ => .pure _
  exact trivial

/-- What an event does to the stores, whichever event it is and wherever it is broken off. -/
theorem after_relates {R : Stores → Stores → Prop} [IsPreorder Stores R] (o : Occasion) (w : World)
    (hdeliver : ∀ r, o.event = .deliver r → R w.stores (o.after w).stores)
    (hdeleted : ∀ feed, o.event = .feedDeleted feed → Silent R (forget feed))
    (hrejected : ∀ r, o.event = .feedRejected r → ∀ st scope,
      R st { st with counters := (st.counters.increment r.feed scope o.setup.now.millis).2 }) :
    R w.stores (o.after w).stores := by
  obtain ⟨event, s, around⟩ := o
  cases event with
  | deliver r => exact hdeliver r rfl
  | feedDeleted feed =>
      have hs : Silent R (handle s (.feedDeleted feed)) :=
        .bind (hdeleted feed rfl) fun _ => .pure _
      exact (hs.carryOut around w).1
  | feedRejected r =>
      have hs : Silent R (takeRebuff s r) := takeRebuff_silent s r (hrejected r rfl)
      exact (hs.carryOut around w).1

/-- A record is there after an event, unless the event deletes its feed. -/
theorem mem_after (o : Occasion) {w : World} {x : Record} (hx : x ∈ w.stores.records.rows) :
    x ∈ (o.after w).stores.records.rows ∨ o.event = .feedDeleted x.attempt.feed := by
  obtain ⟨event, s, around⟩ := o
  cases event with
  | deliver r =>
      refine Or.inl ?_
      rw [Occasion.after, handle_records]
      exact List.mem_append_left _ hx
  | feedDeleted feed =>
      by_cases hf : x.attempt.feed = feed
      · exact Or.inr (by rw [hf])
      · have hs : Silent (KeepsBut feed) (handle s (.feedDeleted feed)) := by
          refine .bind (forget_silent feed (fun _ _ hy _ => hy) (fun _ _ hy _ => hy)
            (fun st y hy hn => ?_) (fun _ _ hy _ => hy) fun _ _ hy _ => hy) fun _ => .pure _
          exact List.mem_filter.mpr ⟨hy, by simpa using hn⟩
        exact Or.inl ((hs.carryOut around w).1 x hx hf)
  | feedRejected r =>
      have hs : Silent (Stores.Keeps Stores.records) (takeRebuff s r) :=
        takeRebuff_silent s r fun _ _ => rfl
      have hkept : w.stores.records = _ := (hs.carryOut around w).1
      rw [hkept] at hx
      exact Or.inl hx

theorem distinct_after (o : Occasion) {w : World} (hw : w.stores.records.Distinct) :
    (o.after w).stores.records.Distinct := by
  refine after_relates (R := KeepsDistinct) o w (fun r he => ?_) (fun feed _ => ?_)
    (fun _ _ _ _ h => h) hw
  · rw [Occasion.after, he]
    exact handle_relates (fun st e outcome h => h.insertNew _) (fun _ _ h => h) (fun _ _ h => h)
      (fun _ _ h => h) (fun _ _ h => h) o.around w
  · exact forget_silent feed (fun _ h => h) (fun _ h => h) (fun _ h => h.delete feed)
      (fun _ h => h) fun _ h => h

theorem distinct_history (os : List Occasion) {w : World} (hw : w.stores.records.Distinct) :
    (history os w).stores.records.Distinct := by
  induction os generalizing w with
  | nil => exact hw
  | cons o rest ih => exact ih (distinct_after o hw)

/-- At one of the events, which deletes the feed of the record, the record is removed. -/
def RemovedIn (x : Record) (os : List Occasion) (w : World) : Prop :=
  ∃ before o rest, os = before ++ o :: rest ∧ o.event = .feedDeleted x.attempt.feed ∧
    x ∈ (history before w).stores.records.rows ∧
    x ∉ (history (before ++ [o]) w).stores.records.rows

/-- A record stays as it is through any events until it is removed with its feed. -/
theorem removedIn_or_mem (os : List Occasion) {w : World} {x : Record}
    (hx : x ∈ w.stores.records.rows) :
    RemovedIn x os w ∨ x ∈ (history os w).stores.records.rows := by
  induction os generalizing w with
  | nil => exact Or.inr hx
  | cons o rest ih =>
      by_cases ho : x ∈ (o.after w).stores.records.rows
      · obtain ⟨before, p, others, rfl, he, hb, hn⟩ | hmem := ih ho
        · exact Or.inl ⟨o :: before, p, others, rfl, he, hb, hn⟩
        · exact Or.inr hmem
      · have he := (mem_after o hx).resolve_left ho
        exact Or.inl ⟨[], o, rest, rfl, he, hx, ho⟩

/-- Nothing is sent for an errand that was recorded before the run. -/
theorem sent_eq_nil_of_recorded {around : Surroundings} {s : Setup} {r : Refresh} {w : World}
    {v : Visit} (hv : v ∈ tour around s r w)
    (hk : v.errand.key ∈ w.stores.records.ofEvent r.id) : v.sent = [] := by
  obtain ⟨pre, post, h⟩ := List.append_of_mem hv
  obtain ⟨hof, -⟩ := tour_split h
  by_contra hne
  exact (hof.sent_ne_nil_iff.mp hne).2.1 hk

/-- The record is there, alone with its key, and no run for its event sends anything for it. -/
structure Lasts (x : Record) (w : World) : Prop where
  kept : x ∈ w.stores.records.rows
  only : ∀ y ∈ w.stores.records.rows, y.attempt.matchesKey x.attempt = true → y = x
  /-- What a run sends is sent in its visits, and nothing in one with the key of the record. -/
  unsent : ∀ around s r, r.id = x.attempt.event →
    (carryOut around (handle s (.deliver r)) w).2.sent =
        w.sent ++ (tour around s r w).flatMap Visit.sent ∧
      ∀ v ∈ tour around s r w, v.errand.key = (x.attempt.connection, x.attempt.article) →
        v.sent = []

/-- Once there is a record after some events, however they went, it lasts through all later events
until it is removed with its feed. Runs that a store does not answer count too, under
`Surroundings.isAtomic`: a record that was written without an answer could meet a second send. -/
theorem record_lasts (w : World) (hw : w.stores.records.Distinct) (earlier later : List Occasion)
    (x : Record) (hx : x ∈ (history earlier w).stores.records.rows) :
    RemovedIn x later (history earlier w) ∨ Lasts x (history (earlier ++ later) w) := by
  rw [history_append]
  refine (removedIn_or_mem later hx).imp_right fun hmem => ?_
  have hd := distinct_history later (distinct_history earlier hw)
  constructor
  · exact hmem
  · intro y hy hk
    exact hd.eq_of_matchesKey hmem hy hk
  · intro around s r hr
    refine ⟨handle_sent around s r _, fun v hv hk => sent_eq_nil_of_recorded hv ?_⟩
    rw [Records.mem_ofEvent_iff]
    exact ⟨x, hmem, hr.symm, hk.symm⟩

/-- A run that breaks off before its fingerprints are stored. -/
def stalledOccasion : Occasion where
  event := .deliver (sampleEvent ["x"] [newsConnection "a"])
  setup := sampleSetup
  around := stalling .insertFingerprints

/-- The same event again, and then one that deletes another feed. -/
def replayOccasions : List Occasion :=
  [{ stalledOccasion with around := {} }, { event := .feedDeleted "g" }]

/-- What the run that broke off has recorded. -/
def stalledRecord : Record := ⟨.drawn 1, ⟨"ev", "f", "a", "x", .sent, 0⟩⟩

theorem stalledRecord_lasts :
    stalledRecord ∈ (history [stalledOccasion] {}).stores.records.rows ∧
      Lasts stalledRecord (history ([stalledOccasion] ++ replayOccasions) {}) := by
  have hx : stalledRecord ∈ (history [stalledOccasion] {}).stores.records.rows := by
    decide +kernel
  refine ⟨hx, (record_lasts {} List.Pairwise.nil [stalledOccasion] replayOccasions stalledRecord
    hx).resolve_left ?_⟩
  rintro ⟨before, o, rest, h, he, -⟩
  have ho : o ∈ replayOccasions := by
    rw [h]
    exact List.mem_append_right _ (List.mem_cons_self ..)
  rcases List.mem_cons.mp ho with rfl | ho
  · cases he
  · obtain rfl := List.mem_singleton.mp ho
    simp [stalledRecord] at he

end Run

end Newswire
