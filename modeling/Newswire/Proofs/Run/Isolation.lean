import Newswire.Proofs.Run.Feeds
import Newswire.Proofs.Run.Footprints
import Newswire.Proofs.Run.Quotas

/-!
# Isolation of feeds

An event does not touch what is remembered of another feed. What comes of the events of a feed, and
what the stores say about it afterwards, is therefore what it would be if there were no events of
other feeds.
-/

namespace Newswire

open Delivery (Attempt Records Status)

namespace Run

/-- Records of these events are records of the feed. -/
def Owned (feed : String) (events : List String) (st : Stores) : Prop :=
  ∀ x ∈ st.records.rows, x.attempt.event ∈ events → x.attempt.feed = feed

theorem Owned.feed_of_mem {feed : String} {events : List String} {st : Stores} {a : Attempt}
    (h : Owned feed events st) (ha : a ∈ st.records.attempts (isMet feed events)) :
    a.feed = feed := by
  obtain ⟨hrow, hmet⟩ := List.mem_filter.mp ha
  obtain ⟨x, hx, rfl⟩ := List.mem_map.mp hrow
  simp only [isMet, Bool.or_eq_true, beq_iff_eq, List.contains_iff_mem] at hmet
  exact hmet.elim id (h x hx)

/-- What is remembered of a feed is not touched, as long as its events are its own. -/
def Leaves (feed : String) (events : List String) (st tt : Stores) : Prop :=
  st.ledger.Numbered → Owned feed events st → Alike feed events st tt ∧ Owned feed events tt

instance (feed : String) (events : List String) : IsPreorder Stores (Leaves feed events) where
  refl _ hn ho := ⟨.refl _ _ hn, ho⟩
  trans _ _ _ hst htu hn ho := by
    obtain ⟨halike, howned⟩ := hst hn ho
    obtain ⟨halike', howned'⟩ := htu halike.numbered.2 howned
    exact ⟨halike.trans halike', howned'⟩

section Leaves

variable {feed : String} {events : List String} {around : Surroundings} {s : Setup} {r : Refresh}
  {recorded : List (String × String)}

/-- A visit for another feed leaves the feed alone. -/
theorem Visit.IsOf.leaves {v : Visit} (h : v.IsOf around s r recorded) (hfeed : feed ≠ r.feed.id)
    (hr : r.id ∉ events) : Leaves feed events v.before.stores v.after.stores := by
  intro hn ho
  have hf := h.footprint
  constructor
  · refine ⟨fun field value => ?_, ?_, fun scope => ?_, fun through since => ?_, ?_, ?_⟩
    · rw [hf.fingerprints]
    · rw [Records.attempts, List.filter_map, Records.attempts, List.filter_map]
      refine congrArg _ (hf.filter_records fun x outcome hx => ?_).symm
      simp [isMet, hx, Errand.attempted, Ne.symm hfeed, hr]
    · exact (hf.get?_of_ne fun he => absurd he hfeed).symm
    · obtain hc | ⟨he, -⟩ := hf.countSince hn feed through since
      · exact hc.symm
      · exact absurd he.symm hfeed
    · exact ⟨hn, hf.numbered hn⟩
    · rw [hf.leases]
  · obtain ⟨new, hrows, hnew⟩ := hf.records
    intro x hx he
    rw [hrows] at hx
    rcases List.mem_append.mp hx with hx | hx
    · exact ho x hx he
    · obtain ⟨outcome, hattempt⟩ := hnew x hx
      rw [hattempt] at he
      exact absurd he hr

theorem leaves_leases {st : Stores} {leases : Leases}
    (h : leases.get? feed = st.leases.get? feed) :
    Leaves feed events st { st with leases } := by
  intro hn ho
  exact ⟨{ Alike.refl feed events hn with lease := h.symm }, ho⟩

theorem leaves_counters {st : Stores} {counters : Counters}
    (h : ∀ scope, counters.get? feed scope = st.counters.get? feed scope) :
    Leaves feed events st { st with counters } := by
  intro hn ho
  exact ⟨{ Alike.refl feed events hn with counters := fun scope => (h scope).symm }, ho⟩

theorem leaves_fingerprints {st : Stores} {fingerprints : Fingerprints}
    (h : ∀ field value,
      fingerprints.holds feed field value = st.fingerprints.holds feed field value) :
    Leaves feed events st { st with fingerprints } := by
  intro hn ho
  exact ⟨{ Alike.refl feed events hn with
    fingerprints := fun field value => (h field value).symm }, ho⟩

/-- What is chosen for another feed is stored for that feed. -/
theorem closing_leaves (hfeed : feed ≠ r.feed.id) (fs : Fingerprints)
    (fates : List (Errand × Fate)) :
    Silent (Leaves feed events) (closing s r (selected s r fs) fates) := by
  refine closing_confined (fun st => leaves_fingerprints fun field value => ?_)
    (fun st => leaves_counters fun scope => Counters.reset_get?_of_ne _ hfeed _ _) fates
  rw [Bool.eq_iff_iff, Fingerprints.insertAll_holds_iff, or_iff_left]
  rintro ⟨f, hf, he, -⟩
  exact hfeed (he.symm.trans (Selection.feed_of_mem_pending hf))

theorem deliver_leaves (hfeed : feed ≠ r.feed.id) (hr : r.id ∉ events) (w : World) :
    Leaves feed events w.stores (carryOut around (deliver s r) w).2.stores := by
  rw [deliver_eq, carryOut_bind]
  obtain ⟨n, ⟨recorded, hopening, -⟩ | ⟨-, err, hopening⟩⟩ := opening_cases around s r w
  · rw [hopening]
    dsimp only
    have hlinked : Linked around s r recorded [] { w with calls := n } _ _ :=
      linked_visits (errands r (selected s r w.stores.fingerprints))
    have hvisits := hlinked.relates fun v hv => hv.leaves hfeed hr
    rw [carryOut_bind]
    rcases hc : carryOut around (attemptAll s r recorded []
      (errands r (selected s r w.stores.fingerprints))) { w with calls := n } with
        ⟨err | fates, v⟩ <;> rw [hc] at hvisits
    · exact hvisits
    · have hclosing : Silent (Leaves feed events)
          (closing s r (selected s r w.stores.fingerprints) fates) := closing_leaves hfeed _ fates
      exact trans_of _ hvisits (hclosing.carryOut around v).1
  · rw [hopening]
    exact refl_of _ _

theorem handle_deliver_leaves (hfeed : feed ≠ r.feed.id) (hr : r.id ∉ events) (w : World) :
    Leaves feed events w.stores (carryOut around (handle s (.deliver r)) w).2.stores := by
  have hacquiring : Silent (Leaves feed events) (acquiring s r) :=
    .store _ (.call fun st => leaves_leases (Leases.acquire_get?_of_ne _ _ _ _ hfeed))
  have hreleasing : Silent (Leaves feed events) (releasing s r) :=
    .store _ (.call fun st => leaves_leases (Leases.release_get?_of_ne _ _ hfeed))
  have hacquired := (hacquiring.carryOut around w).1
  rw [carryOut_handle]
  rcases hc : carryOut around (acquiring s r) w with ⟨err | taken, v⟩ <;> rw [hc] at hacquired
  · exact hacquired
  · cases taken with
    | false => exact hacquired
    | true =>
        have hdelivered : Leaves feed events v.stores (carryOut around (deliver s r) v).2.stores :=
          deliver_leaves hfeed hr v
        have hreleased := (hreleasing.carryOut around (carryOut around (deliver s r) v).2).1
        exact trans_of _ (trans_of _ hacquired hdelivered) hreleased

/-- Another feed can be forgotten. -/
theorem forget_leaves {other : String} (hfeed : feed ≠ other) :
    Silent (Leaves feed events) (forget other) := by
  refine forget_silent other (fun st => leaves_fingerprints fun field value => ?_)
    (fun st => leaves_counters fun scope => ?_) (fun st hn ho => ⟨?_, fun x hx => ?_⟩)
    (fun st hn ho => ⟨?_, ho⟩) fun st => leaves_leases ?_
  · rw [Fingerprints.delete_holds]
    simp [hfeed]
  · rw [Counters.delete_get?, if_neg hfeed]
  · refine { Alike.refl feed events hn with records := ?_ }
    rw [Records.attempts_delete, List.filter_eq_self.mpr fun a ha => ?_]
    simp [ho.feed_of_mem ha, hfeed]
  · exact ho x (List.mem_filter.mp hx).1
  · refine { Alike.refl feed events hn with
      counts := fun through since => ?_, numbered := ⟨hn, hn.filter _⟩ }
    rw [Quota.Ledger.purge_countSince, if_neg hfeed]
  · exact Leases.get?_without_of_ne _ hfeed

end Leaves

/-- What came of an event: the answer, and the messages that were sent. -/
structure Upshot where
  answer : Except Error Report
  messages : List Sending

namespace Occasion

/-- The event is about the feed. -/
def isOf (feed : String) (o : Occasion) : Bool := o.event.feed == feed

/-- Handles the event. Its calls are numbered from its start, whatever came before. -/
def handled (o : Occasion) (w : World) : Except Error Report × World :=
  carryOut o.around (handle o.setup o.event) { w with calls := 0 }

def upshot (o : Occasion) (w : World) : Upshot :=
  ⟨(o.handled w).1, (o.handled w).2.sent.drop w.sent.length⟩

end Occasion

/-- What is left after events were handled one after the other. -/
def aftermath (os : List Occasion) (w : World) : World := os.foldl (fun w o => (o.handled w).2) w

/-- What came of the events of a feed, when all events are handled one after the other. -/
def upshotsOf (feed : String) : List Occasion → World → List Upshot
  | [], _ => []
  | o :: rest, w =>
    (if o.isOf feed then [o.upshot w] else []) ++ upshotsOf feed rest (o.handled w).2

/-- The messages that were sent for a feed. -/
def messagesOf (feed : String) (os : List Occasion) (w : World) : List Sending :=
  (upshotsOf feed os w).flatMap Upshot.messages

/-- The identifiers of the events that deliver articles of a feed. -/
def eventsOf (feed : String) (os : List Occasion) : List String :=
  os.filterMap fun o =>
    match o.event with
    | .deliver r => if r.feed.id = feed then some r.id else none
    | _ => none

/-- Whoever receives the messages of a feed answers as if nothing else had been sent than these, and
`before` in the first place. -/
def Discreet (feed : String) (os : List Occasion) (w : World) (before : List Sending) : Prop :=
  ∀ pre o post, os = pre ++ o :: post → o.isOf feed = true → ∀ ms m,
    o.around.receiver ((aftermath pre w).sent ++ ms) m =
      o.around.receiver (before ++ messagesOf feed pre w ++ ms) m

/-- Whatever the stores are asked about a feed, they answer the same, apart from the identifiers of
records. -/
structure AnswersAlike (feed : String) (events : List String) (st tt : Stores) : Prop where
  seen : ∀ field values,
    st.fingerprints.seen feed field values = tt.fingerprints.seen feed field values
  hasField : ∀ field, st.fingerprints.hasField feed field = tt.fingerprints.hasField feed field
  records : (st.records.ofFeed feed).map (·.attempt) = (tt.records.ofFeed feed).map (·.attempt)
  latest : ∀ limit, (st.records.latest feed limit).map (·.attempt.time) =
    (tt.records.latest feed limit).map (·.attempt.time)
  ofEvent : ∀ event ∈ events, st.records.ofEvent event = tt.records.ofEvent event
  count : ∀ status, st.records.count feed status = tt.records.count feed status
  counters : ∀ scope, st.counters.get? feed scope = tt.counters.get? feed scope
  reservations : ∀ through since,
    st.ledger.countSince feed through since = tt.ledger.countSince feed through since
  lease : st.leases.get? feed = tt.leases.get? feed

variable {feed : String} {events : List String}

theorem Alike.answers {st tt : Stores} (h : Alike feed events st tt) :
    AnswersAlike feed events st tt := by
  have hattempts (rs : Records) : (rs.ofFeed feed).map (·.attempt) =
      (rs.attempts (isMet feed events)).filter (·.feed == feed) := by
    rw [Records.attempts, List.filter_filter, List.filter_map, Records.ofFeed]
    refine congrArg _ (List.filter_congr fun x _ => ?_)
    by_cases hx : x.attempt.feed = feed <;> simp [isMet, hx]
  have hrecords : (st.records.ofFeed feed).map (·.attempt) =
      (tt.records.ofFeed feed).map (·.attempt) := by
    rw [hattempts, hattempts, h.records]
  have hcount (rs : Records) (status : Status) : rs.count feed status =
      (((rs.ofFeed feed).map (·.attempt)).filter (·.outcome.status == status)).length := by
    rw [List.filter_map, List.length_map]
    rfl
  exact
    { seen := h.seen
      hasField := h.hasField
      records := hrecords
      latest := Records.latest_times hrecords
      ofEvent := fun event he => h.ofEvent he
      count := fun status => by rw [hcount, hcount, hrecords]
      counters := h.counters
      reservations := h.counts
      lease := h.lease }

section Occasion

variable {o : Occasion} {w w' : World}

/-- What an event of the feed comes to is told by what is remembered of the feed and by the answers
of its receivers. -/
theorem handled_own (hof : o.isOf feed = true)
    (hevents : ∀ r, o.event = .deliver r → r.id ∈ events)
    (h : Alike feed events w.stores w'.stores)
    (hreceiver : ∀ ms m, o.around.receiver (w.sent ++ ms) m = o.around.receiver (w'.sent ++ ms) m) :
    o.upshot w = o.upshot w' ∧ Alike feed events (o.handled w).2.stores (o.handled w').2.stores ∧
      (o.handled w').2.sent = w'.sent ++ (o.upshot w).messages := by
  have habreast : Abreast Anything o.around o.around { w with calls := 0 }
      { w' with calls := 0 } := ⟨fun _ => rfl, fun ms m _ _ => hreceiver ms m⟩
  have hfeed : o.event.feed = feed := by simpa [Occasion.isOf] using hof
  obtain ⟨hadvance, hend⟩ := handle_same o.setup hfeed hevents habreast h
  obtain ⟨hanswer, hstores⟩ := endAlike_same_iff.mp hend
  obtain ⟨ms, -, hsent, hsent'⟩ := hadvance.sent
  have hsent : (o.handled w).2.sent = w.sent ++ ms := hsent
  have hsent' : (o.handled w').2.sent = w'.sent ++ ms := hsent'
  refine ⟨?_, hstores, ?_⟩
  · rw [Occasion.upshot, Occasion.upshot, hsent, hsent', List.drop_left, List.drop_left]
    exact congrArg (Upshot.mk · ms) hanswer
  · rw [Occasion.upshot, hsent, hsent', List.drop_left]

/-- An event of another feed does not touch what is remembered of the feed. -/
theorem handled_other (hof : o.isOf feed = false)
    (hevents : ∀ r, o.event = .deliver r → r.id ∉ events) :
    Leaves feed events w.stores (o.handled w).2.stores := by
  have hfeed : feed ≠ o.event.feed := fun he => by simp [Occasion.isOf, he] at hof
  refine after_relates (R := Leaves feed events) o { w with calls := 0 } (fun r he => ?_)
    (fun other he => ?_) (fun r he st scope => leaves_counters fun other => ?_)
  · rw [Occasion.after, he]
    rw [he] at hfeed
    exact handle_deliver_leaves hfeed (hevents r he) _
  · rw [he] at hfeed
    exact forget_leaves hfeed
  · rw [he] at hfeed
    exact Counters.increment_get?_of_ne _ (fun hf => absurd hf hfeed) _

/-- No record of these events comes to be one of another feed. -/
def KeepsOwned (feed : String) (events : List String) (st tt : Stores) : Prop :=
  Owned feed events st → Owned feed events tt

instance (feed : String) (events : List String) : IsPreorder Stores (KeepsOwned feed events) where
  refl _ h := h
  trans _ _ _ hst htu h := htu (hst h)

theorem owned_handled (hevents : ∀ r, o.event = .deliver r → r.id ∈ events → r.feed.id = feed)
    (h : Owned feed events w.stores) : Owned feed events (o.handled w).2.stores := by
  refine after_relates (R := KeepsOwned feed events) o { w with calls := 0 } (fun r he => ?_)
    (fun other _ => ?_) (fun _ _ _ _ h => h) h
  · rw [Occasion.after, he]
    refine handle_relates (fun st e outcome ho x hx hevent => ?_) (fun _ _ h => h) (fun _ _ h => h)
      (fun _ _ h => h) (fun _ _ h => h) o.around _
    dsimp only at hx
    rw [Records.insertNew_rows] at hx
    rcases List.mem_append.mp hx with hx | hx
    · exact ho x hx hevent
    · rw [Records.attempt_of_mem_added hx] at hevent ⊢
      exact hevents r he hevent
  · exact forget_silent other (fun _ h => h) (fun _ h => h)
      (fun _ h x hx => h x (List.mem_filter.mp hx).1) (fun _ h => h) fun _ h => h

theorem numbered_handled (o : Occasion) (hw : w.stores.ledger.Numbered) :
    (o.handled w).2.stores.ledger.Numbered := numbered_after o (w := { w with calls := 0 }) hw

end Occasion

/-- The identifiers are those of the feed's own events, and of no others. -/
def Marks (feed : String) (events : List String) (os : List Occasion) : Prop :=
  ∀ o ∈ os, ∀ r, o.event = .deliver r → (r.id ∈ events ↔ r.feed.id = feed)

theorem Discreet.rest {o : Occasion} {rest : List Occasion} {w : World} {before : List Sending}
    (h : Discreet feed (o :: rest) w before) :
    Discreet feed rest (o.handled w).2
      (before ++ if o.isOf feed then (o.upshot w).messages else []) := by
  intro pre p post hsplit hp ms m
  have hstep := h (o :: pre) p post (by rw [hsplit, List.cons_append]) hp ms m
  have hmessages : messagesOf feed (o :: pre) w =
      (if o.isOf feed then (o.upshot w).messages else []) ++
        messagesOf feed pre (o.handled w).2 := by
    rw [messagesOf, upshotsOf, List.flatMap_append]
    split <;> simp [messagesOf]
  rw [hmessages, ← List.append_assoc before] at hstep
  exact hstep

/-- Leaving out the events of other feeds changes nothing for a feed. -/
theorem upshotsOf_own {os : List Occasion} {w w' : World} (hmarks : Marks feed events os)
    (halike : Alike feed events w.stores w'.stores) (howned : Owned feed events w.stores)
    (hdiscreet : Discreet feed os w w'.sent) :
    upshotsOf feed os w = upshotsOf feed (os.filter (·.isOf feed)) w' ∧
      Alike feed events (aftermath os w).stores
        (aftermath (os.filter (·.isOf feed)) w').stores := by
  induction os generalizing w w' with
  | nil => exact ⟨rfl, halike⟩
  | cons o rest ih =>
      obtain ⟨ho, hrest⟩ := List.forall_mem_cons.mp hmarks
      have howned' := owned_handled (fun r he => (ho r he).mp) howned
      by_cases hof : o.isOf feed = true
      · have hfeed : ∀ r, o.event = .deliver r → r.id ∈ events := by
          intro r he
          refine (ho r he).mpr ?_
          simpa [Occasion.isOf, he, Event.Input.feed] using hof
        obtain ⟨hupshot, hafter, hsent⟩ := handled_own hof hfeed halike fun ms m => by
          simpa [aftermath, messagesOf, upshotsOf] using hdiscreet [] o rest rfl hof ms m
        have hnext := hdiscreet.rest
        rw [if_pos hof, ← hsent] at hnext
        obtain ⟨hupshots, hend⟩ := ih hrest hafter howned' hnext
        rw [List.filter_cons_of_pos hof, upshotsOf, upshotsOf, if_pos hof, if_pos hof, hupshot,
          hupshots]
        exact ⟨rfl, hend⟩
      · have hfeed : ∀ r, o.event = .deliver r → r.id ∉ events := by
          intro r he hr
          have hid := (ho r he).mp hr
          simp [Occasion.isOf, he, Event.Input.feed, hid] at hof
        have hfalse : o.isOf feed = false := by simpa using hof
        obtain ⟨hleft, -⟩ := handled_other hfalse hfeed (w := w) halike.numbered.1 howned
        have hnext := hdiscreet.rest
        rw [if_neg hof, List.append_nil] at hnext
        have hafter : Alike feed events (o.handled w).2.stores w'.stores := hleft.symm.trans halike
        obtain ⟨hupshots, hend⟩ := ih hrest hafter howned' hnext
        rw [List.filter_cons_of_neg hof, upshotsOf, if_neg hof, List.nil_append]
        exact ⟨hupshots, hend⟩

theorem mem_eventsOf {os : List Occasion} {event : String} :
    event ∈ eventsOf feed os ↔ ∃ o ∈ os, ∃ r, o.event = .deliver r ∧ r.feed.id = feed ∧
      r.id = event := by
  rw [eventsOf, List.mem_filterMap]
  refine exists_congr fun o => and_congr_right fun _ => ?_
  cases o.event with
  | deliver r =>
      by_cases hr : r.feed.id = feed <;> simp [hr]
  | _ => simp

/-- Where no two feeds use the identifier of one event, the events of a feed are told by theirs. -/
theorem marks_eventsOf {os : List Occasion}
    (h : ∀ o ∈ os, ∀ p ∈ os, ∀ r q, o.event = .deliver r → p.event = .deliver q → r.id = q.id →
      r.feed.id = q.feed.id) : Marks feed (eventsOf feed os) os := by
  intro o ho r he
  rw [mem_eventsOf]
  constructor
  · rintro ⟨p, hp, q, hq, rfl, hid⟩
    exact h o ho p hp r q he hq hid.symm
  · rintro hr
    exact ⟨o, ho, r, he, hr, rfl⟩

/-- What comes of the events of a feed, and what the stores answer about it afterwards, is as if the
events of other feeds had not been there, in whatever surroundings they are handled. No event of
another feed may have the identifier of one of its own, and whoever receives its messages must not
be told by those of other feeds. -/
theorem feeds_isolated (feed : String) (os : List Occasion) (w : World)
    (hw : w.stores.ledger.Numbered)
    (hids : ∀ o ∈ os, ∀ p ∈ os, ∀ r q, o.event = .deliver r → p.event = .deliver q →
      r.id = q.id → r.feed.id = q.feed.id)
    (howned : Owned feed (eventsOf feed os) w.stores) (hdiscreet : Discreet feed os w w.sent) :
    let own := os.filter (·.isOf feed)
    upshotsOf feed os w = upshotsOf feed own w ∧
      AnswersAlike feed (eventsOf feed os) (aftermath os w).stores (aftermath own w).stores := by
  intro own
  obtain ⟨hupshots, hend⟩ :=
    upshotsOf_own (marks_eventsOf hids) (.refl feed _ hw) howned hdiscreet
  exact ⟨hupshots, hend.answers⟩

/-- An event of another feed than the sample's. -/
def neighbourEvent : Refresh :=
  { sampleEvent ["x"] [newsConnection "a"] with id := "other", feed := { id := "g" } }

/-- Between two events of a feed, one of another feed breaks off, and that feed is deleted. -/
def neighbourOccasions : List Occasion :=
  [{ event := .deliver (sampleEvent ["x"] [newsConnection "a"]), setup := sampleSetup
     around := { receiver := refusing "a" } },
   { event := .deliver neighbourEvent, setup := sampleSetup
     around := stalling .insertRecord },
   { event := .feedDeleted "g" },
   { event := .deliver { sampleEvent ["x", "y"] [newsConnection "a"] with id := "later" }
     setup := { sampleSetup with now := .ofMillis 5 } }]

/-- The two events of the feed come to what they come to by themselves: a refusal, and a delivery of
what is new. -/
theorem isolated_neighbours :
    (∀ o ∈ neighbourOccasions, ∀ p ∈ neighbourOccasions, ∀ r q, o.event = .deliver r →
        p.event = .deliver q → r.id = q.id → r.feed.id = q.feed.id) ∧
      Owned "f" (eventsOf "f" neighbourOccasions) {} ∧ Discreet "f" neighbourOccasions {} [] ∧
      (messagesOf "f" neighbourOccasions {}).length = 2 ∧
      upshotsOf "f" neighbourOccasions {} =
        upshotsOf "f" (neighbourOccasions.filter (·.isOf "f")) {} ∧
      AnswersAlike "f" (eventsOf "f" neighbourOccasions) (aftermath neighbourOccasions {}).stores
        (aftermath (neighbourOccasions.filter (·.isOf "f")) {}).stores := by
  have hids : ∀ o ∈ neighbourOccasions, ∀ p ∈ neighbourOccasions, ∀ r q, o.event = .deliver r →
      p.event = .deliver q → r.id = q.id → r.feed.id = q.feed.id := by
    intro o ho p hp r q hr hq hid
    simp only [neighbourOccasions, List.mem_cons, List.not_mem_nil, or_false] at ho hp
    obtain rfl | rfl | rfl | rfl := ho <;> obtain rfl | rfl | rfl | rfl := hp <;> cases hr <;>
      cases hq <;> first | rfl | exact absurd hid (by decide)
  have howned : Owned "f" (eventsOf "f" neighbourOccasions) {} := by
    intro x hx
    cases hx
  have hdiscreet : Discreet "f" neighbourOccasions {} [] := by
    intro pre o post hsplit _ ms m
    have ho : o ∈ neighbourOccasions := by
      rw [hsplit]
      exact List.mem_append_right _ (List.mem_cons_self ..)
    simp only [neighbourOccasions, List.mem_cons, List.not_mem_nil, or_false] at ho
    obtain rfl | rfl | rfl | rfl := ho <;> rfl
  refine ⟨hids, howned, hdiscreet, by decide +kernel, ?_⟩
  exact feeds_isolated "f" neighbourOccasions {} Quota.Ledger.numbered_empty hids howned hdiscreet

end Run

end Newswire
