import Newswire.Proofs.Run.Counting

/-!
# Resuming after a run that broke off

A run that breaks off before its last call stores no fingerprints and sets no counter back. When its
event is handled again, the same articles are chosen; what has been recorded by then is skipped, and
everything else is done as in a first run.
-/

namespace Newswire.Run

variable {around : Surroundings} {s : Setup} {r : Refresh} {w : World}

section Completion

variable {K : Store.Kind → Prop} {B : Prop}

theorem mem_errands {selection : Selection} {e : Errand} (h : e ∈ errands r selection) :
    e.connection ∈ r.connections := by
  obtain ⟨a, -, he⟩ := List.mem_flatMap.mp h
  obtain ⟨l, hl, rfl⟩ := List.mem_map.mp he
  obtain ⟨c, hc, rfl⟩ := List.mem_map.mp hl
  exact hc

theorem closing_brittle (hi : K .insertFingerprints) (hr : K .resetCounters)
    (selection : Selection) (fates : List (Errand × Fate)) :
    Brittle K B (closing s r selection fates) := by
  refine .bind (.store _ (.ite (.pure _) (.call hi _))) fun _ => ?_
  split
  · exact .bind (.store _ (.bind (.call hr _) fun _ => .pure _)) fun _ => .pure _
  · exact .pure _

/-- A run that has the lease breaks off at a call that is not answered, or where a connection with a
blank identifier is rejected. -/
theorem deliver_brittle (s : Setup) (r : Refresh)
    (hb : ∀ c ∈ r.connections, shows c.id = false → B) :
    Brittle (fun _ => True) B (deliver s r) := by
  rw [deliver_eq]
  refine .bind (opening_brittle fun _ _ => trivial) fun opened => ?_
  refine .bind (attemptAll_brittle (fun _ _ => trivial) fun e he => hb _ (mem_errands he))
    fun fates => ?_
  exact closing_brittle trivial trivial _ fates

/-- A run comes to its end when the lease is free, every call is answered and no connection has a
blank identifier. -/
theorem handle_completes (hfree : w.stores.leases.isFree r.feed.id s.holder s.asked = true)
    (hcalm : unanswered around (handle s (.deliver r)) w = [])
    (hshows : ∀ c ∈ r.connections, shows c.id = true) :
    ∃ report, (carryOut around (handle s (.deliver r)) w).1 = .ok report := by
  obtain ⟨err, n, -, -, hf | ⟨-, hf⟩⟩ | ⟨leases, n, -, leases', m, hc, hl⟩ :=
    handle_stages around s r w
  · simp [hcalm] at hf
  · simp [hfree] at hf
  · let v : World := ⟨{ w.stores with leases }, n, w.sent⟩
    have hu : unanswered around (deliver s r) v = [] := by
      obtain ⟨hl, -⟩ | hl := hl
      · exact hl ▸ hcalm
      · simp [hcalm] at hl
    have hbrittle : Brittle (fun _ => True) False (deliver s r) :=
      deliver_brittle s r fun c hc hn => by simp [hshows c hc] at hn
    rw [hc]
    obtain ⟨hok, -⟩ | ⟨-, ⟨kind, -, hf⟩ | ⟨hn, -⟩⟩ := hbrittle around v
    · exact hok
    · simp [hu] at hf
    · exact hn.elim

end Completion

/-- What a run that is broken off leaves as it was, and what it adds. -/
structure Resumable (s : Setup) (r : Refresh) (w w' : World) (vs : List Visit) : Prop where
  fingerprints : w'.stores.fingerprints = w.stores.fingerprints
  records : w'.stores.records.rows = w.stores.records.rows ++ vs.flatMap Visit.added
  /-- No counter has been set back. -/
  counters : Counted r vs w.stores.counters w'.stores.counters

/-- The one fate of an errand, where the keys of `recorded` have a record and the visits before it
were `pre`. What has a record is skipped unless its connection has been rejected by then. -/
structure FateTold (around : Surroundings) (s : Setup) (r : Refresh)
    (recorded : List (String × String)) (pre : List Visit) (v : Visit) (fate : Fate) : Prop where
  suppressed : fate = .suppressed ↔ RejectedIn pre v.errand.connection.id
  skipped : fate = .skipped ↔
    ¬RejectedIn pre v.errand.connection.id ∧ v.errand.key ∈ recorded
  withheld : fate = .withheld ↔ ¬RejectedIn pre v.errand.connection.id ∧
    v.errand.key ∉ recorded ∧ v.errand.Refused s r v.before
  ended : (∃ x, fate = .ended x) ↔ ¬RejectedIn pre v.errand.connection.id ∧
    v.errand.key ∉ recorded ∧ ¬v.errand.Refused s r v.before
  settled : ∀ x, fate = .ended x →
    (∃ ledger, v.errand.Settles around s r v.before x.outcome x.rejection ledger v.sent) ∧
      v.added = v.before.stores.records.added (v.errand.attempted s r x.outcome)
  /-- What has no record is visited as in a first run. -/
  fresh : v.errand.key ∉ recorded → v.IsOf around s r []

/-- How an event is handled again in `w'` after a run of `s` in `w`, with the visits `vs`. -/
structure Resumes (around : Surroundings) (s later : Setup) (r : Refresh) (w w' : World)
    (vs : List Visit) (answer : Except Error Report) : Prop where
  deliver : (selected later r w'.stores.fingerprints).deliver =
    (selected s r w.stores.fingerprints).deliver
  inOrder : vs.map Visit.errand <+: errands r (selected s r w.stores.fingerprints)
  fate : ∀ pre v post, vs = pre ++ v :: post → ∀ fate, v.answer = .ok fate →
    FateTold around later r (w'.stores.records.ofEvent r.id) pre v fate
  /-- It comes to its end, and then every errand has its fate. -/
  completed : (∀ c ∈ r.connections, shows c.id = true) → ∃ report, answer = .ok report
  visited : ∀ report, answer = .ok report →
    vs.map Visit.errand = errands r (selected s r w.stores.fingerprints) ∧
      (∀ v ∈ vs, v.answer.isOk = true) ∧
      report.skipped = vs.countP fun v => v.answer = .ok .skipped

theorem tour_fateTold {pre post : List Visit} {v : Visit}
    (h : tour around s r w = pre ++ v :: post) {fate : Fate} (ha : v.answer = .ok fate) :
    FateTold around s r (w.stores.records.ofEvent r.id) pre v fate := by
  obtain ⟨hv, -, hr, -⟩ := tour_split h
  have hsettled (x : Ending) (hx : fate = .ended x) :
      (∃ ledger, v.errand.Settles around s r v.before x.outcome x.rejection ledger v.sent) ∧
        v.added = v.before.stores.records.added (v.errand.attempted s r x.outcome) := by
    obtain ⟨hs, hadded, -⟩ := hv.ended (hx ▸ ha)
    exact ⟨hs, hadded⟩
  have hcases := hv.fate_cases ha
  simp only [hr] at hcases
  obtain ⟨rfl, hfate⟩ | ⟨rfl, hfate⟩ | ⟨rfl, hfate⟩ | ⟨x, rfl, hfate⟩ := hcases
  all_goals
    exact ⟨by simp [hfate], by simp [hfate], by simp [hfate], by simp [hfate], hsettled,
      hv.unrecorded⟩

/-- An event is resumed in a world with the same fingerprints. -/
theorem resumes_of_fingerprints {w' : World} {now asked : Instant} {holder : String}
    (hage : r.feed.maxAge = none)
    (hkept : w'.stores.fingerprints = w.stores.fingerprints)
    (hfree : w'.stores.leases.isFree r.feed.id holder asked = true)
    (hcalm : unanswered around (handle { s with now, asked, holder } (.deliver r)) w' = []) :
    Resumes around s { s with now, asked, holder } r w w'
      (tour around { s with now, asked, holder } r w')
      (carryOut around (handle { s with now, asked, holder } (.deliver r)) w').1 := by
  have hdeliver : (selected { s with now, asked, holder } r w'.stores.fingerprints).deliver =
      (selected s r w.stores.fingerprints).deliver := by
    rw [hkept]
    exact Selection.chosen_deliver_of_ageless _ _ _ (by simp [options, hage]) ..
  have herrands : errands r (selected { s with now, asked, holder } r w'.stores.fingerprints) =
      errands r (selected s r w.stores.fingerprints) := by
    rw [errands, errands, hdeliver]
  refine
    { deliver := hdeliver
      inOrder := herrands ▸ tour_errands around { s with now, asked, holder } r w'
      fate := fun pre v post h fate ha => tour_fateTold h ha
      completed := fun hshows => handle_completes hfree hcalm hshows
      visited := fun report h => ?_ }
  obtain ⟨fates, hes, hvs, rfl, -⟩ := handle_ok h
  have hvisited : Visited { s with now, asked, holder } r w' _ fates := ⟨hes, hvs⟩
  refine ⟨?_, fun v hv => hvisited.isOk hv, length_filter_fates hvs .skipped⟩
  have he := congrArg (List.map Prod.fst) hvs
  rw [List.map_map, List.map_map] at he
  exact (he.trans hes).trans herrands

/-- A run that is broken off loses nothing. Unless it breaks off when the counters were to be set
back, after every errand has had its fate, it keeps the fingerprints, the records and the counters
that were there, and when its event is handled again undisturbed the same articles are chosen, and
what has a record by then is skipped unless its connection is rejected again. The lease is given
back unless something befalls a call about it. That the call at which a run breaks off has no effect
on the stores is `Surroundings.isAtomic`. -/
theorem handle_resumes (around : Surroundings) (s : Setup) (r : Refresh) (w : World) (err : Error)
    (hage : r.feed.maxAge = none)
    (h : (carryOut around (handle s (.deliver r)) w).1 = .error err) :
    let failed := unanswered around (handle s (.deliver r)) w
    let w' := (carryOut around (handle s (.deliver r)) w).2
    (.resetCounters ∈ failed → ∃ fates, Visited s r w (tour around s r w) fates) ∧
    (.resetCounters ∉ failed → Resumable s r w w' (tour around s r w) ∧
      ∀ around' now asked holder, w'.stores.leases.isFree r.feed.id holder asked = true →
        unanswered around' (handle { s with now, asked, holder } (.deliver r)) w' = [] →
        Resumes around' s { s with now, asked, holder } r w w'
          (tour around' { s with now, asked, holder } r w')
          (carryOut around' (handle { s with now, asked, holder } (.deliver r)) w').1) ∧
    (failed ≠ [] → .acquireLease ∉ failed → .releaseLease ∉ failed →
      ∀ holder asked, w'.stores.leases.isFree r.feed.id holder asked = true) := by
  intro failed w'
  obtain ⟨u, x, course⟩ := handle_course around s r w
  have hcounted := course.linked.counted
  have hcounters : u.stores.counters = w.stores.counters := course.start_counters
  have hends := course.ends
  rw [h] at hends
  rw [hcounters] at hcounted
  refine ⟨fun hreset => ?visited, fun hreset => ?resumable, fun hn ha hr holder asked => ?free⟩
  case visited =>
    cases hends with
    | brokenOff fingerprints counters failing => exact absurd hreset failing
    | @notReset _ fates visited counters failing => exact ⟨fates, visited⟩
  case resumable =>
    cases hends with
    | brokenOff fingerprints counters failing =>
        refine ⟨⟨fingerprints, handle_records around s r w, ?_⟩, fun around' now asked holder => ?_⟩
        · simp only [w']
          rw [counters]
          exact hcounted
        · exact resumes_of_fingerprints hage fingerprints
    | notReset visited counters failing => exact absurd failing hreset
  case free =>
    have hleases : w'.stores.leases = w.stores.leases.without r.feed.id :=
      handle_leases around s r w hn ha hr
    rw [hleases]
    exact Leases.isFree_without ..

/-- Two articles on their way to two connections, the second of which lets only one of them through.
One delivery is allowed in a day. -/
def pickyEvent : Refresh :=
  let picky : Connection :=
    { newsConnection "c" with
      rule := some (.compare ⟨.equals, false⟩ Article.identityField (.text "x")) }
  let r := sampleEvent ["y", "x"] [newsConnection "d", picky]
  { r with feed := { r.feed with dailyLimit := some 1 } }

/-- What is left after a run that could not store its fingerprints. -/
def stalledWorld : World :=
  (carryOut (stalling .insertFingerprints) (handle sampleSetup (.deliver pickyEvent)) {}).2

/-- A setup of more than a day later. -/
def nextDaySetup : Setup :=
  { sampleSetup with now := .ofMillis 86400001, asked := .ofMillis 86400000, holder := "second" }

theorem resumes_stalledWorld :
    pickyEvent.feed.maxAge = none ∧
      (carryOut (stalling .insertFingerprints) (handle sampleSetup (.deliver pickyEvent)) {}).1 =
        .error (.timeout "fingerprint commit") ∧
      Resumable sampleSetup pickyEvent {} stalledWorld
        (tour (stalling .insertFingerprints) sampleSetup pickyEvent {}) ∧
      Resumes { receiver := refusing "c" } sampleSetup nextDaySetup pickyEvent {} stalledWorld
        (tour { receiver := refusing "c" } nextDaySetup pickyEvent stalledWorld)
        (carryOut { receiver := refusing "c" } (handle nextDaySetup (.deliver pickyEvent))
          stalledWorld).1 := by
  have h : (carryOut (stalling .insertFingerprints)
      (handle sampleSetup (.deliver pickyEvent)) {}).1 =
        .error (.timeout "fingerprint commit") := by decide +kernel
  obtain ⟨hresumable, hresumes⟩ := (handle_resumes _ _ _ _ _ rfl h).2.1 (by decide +kernel)
  exact ⟨rfl, h, hresumable,
    hresumes { receiver := refusing "c" } _ _ _ (by decide +kernel) (by decide +kernel)⟩

/-- Of the two errands that the run has recorded one is skipped when the event is handled again: the
connection of the other is rejected first. -/
theorem recorded_suppressed :
    let again := carryOut { receiver := refusing "c" } (handle nextDaySetup (.deliver pickyEvent))
      stalledWorld
    let chosen := errands pickyEvent (selected sampleSetup pickyEvent {})
    let recorded := stalledWorld.stores.records.ofEvent "ev"
    pickyEvent.feed.maxAge = none ∧
      (carryOut (stalling .insertFingerprints) (handle sampleSetup (.deliver pickyEvent)) {}).1 =
        .error (.timeout "fingerprint commit") ∧
      unanswered (stalling .insertFingerprints) (handle sampleSetup (.deliver pickyEvent)) {} =
        [.insertFingerprints] ∧
      unanswered { receiver := refusing "c" } (handle nextDaySetup (.deliver pickyEvent))
        stalledWorld = [] ∧
      chosen.countP (fun e => recorded.contains e.key) = 2 ∧
      again.1 = .ok
        { events := [.delivered "f" "c" "x" .failed (some .receiverBadRequest)]
          selected := 2
          withheld := 1
          skipped := 1 } := by
  decide +kernel

end Newswire.Run
