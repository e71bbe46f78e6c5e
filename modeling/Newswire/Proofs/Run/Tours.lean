import Newswire.Proofs.Run.Courses

/-!
# Tours

All visits of a run that delivers. What such a run sends and records, it sends and records in its
visits, wherever it is broken off; and a run that comes to its end has visited every errand.
-/

namespace Newswire.Run

variable (around : Surroundings) (s : Setup) (r : Refresh)

/-- The visits of a run that has the lease, which has none unless it gets as far as that. -/
def tourUnderLease (v : World) : List Visit :=
  match carryOut around (opening s r) v with
  | (.ok (selection, recorded), u) => visits around s r recorded [] (errands r selection) u
  | (.error _, _) => []

/-- The visits of a run that delivers. -/
def tour (w : World) : List Visit :=
  match carryOut around (acquiring s r) w with
  | (.ok true, v) => tourUnderLease around s r v
  | _ => []

variable {around s r}

/-- How a run goes that has the lease. -/
theorem deliver_course (around : Surroundings) (s : Setup) (r : Refresh) (v : World) :
    ∃ u x, Course around s r v (tourUnderLease around s r v) (carryOut around (deliver s r) v).1
      (carryOut around (deliver s r) v).2 (unanswered around (deliver s r) v) u x := by
  have hbrittle : Brittle (· ≠ .resetCounters) False (opening s r) := opening_brittle (by simp)
  rw [deliver_eq, carryOut_bind, unanswered_bind, tourUnderLease]
  obtain ⟨n, ⟨recorded, hc, hr⟩ | ⟨-, err, hc⟩⟩ := opening_cases around s r v
  · have hu : unanswered around (opening s r) v = [] :=
      hbrittle.unanswered_of_ok (congrArg Prod.fst hc)
    obtain ⟨ha, hv⟩ := lookup_irrelevant around s hr { v with calls := n }
    rw [hc, hu]
    dsimp only
    rw [ha, hv]
    exact ⟨_, visiting_course around s r v n⟩
  · obtain ⟨kind, hk, hf⟩ | ⟨hn, -⟩ := hbrittle.unanswered_of_error (congrArg Prod.fst hc)
    · rw [hc, hf]
      exact ⟨v, v, .of_visits rfl .nil (fun _ hu => nomatch hu) ⟨_, _, _, rfl⟩
        (.brokenOff rfl rfl (by simpa using hk.symm))⟩
    · exact hn.elim

/-- The calls of a run are about the lease, or they are made under it. -/
theorem unanswered_handle (around : Surroundings) (s : Setup) (r : Refresh) (w : World) :
    unanswered around (handle s (.deliver r)) w =
      unanswered around (acquiring s r) w ++
        match carryOut around (acquiring s r) w with
        | (.ok true, v) =>
          unanswered around (deliver s r) v ++
            unanswered around (releasing s r) (carryOut around (deliver s r) v).2
        | _ => [] := by
  rw [handle, underLease, unanswered_bind, acquiring]
  generalize carryOut around (store "lease acquire" _) w = taking
  obtain ⟨err | taken, v⟩ := taking
  · rfl
  · cases taken with
    | false => rfl
    | true =>
        change _ ++ ((deliver s r).run >>= _).unanswered around v = _
        rw [Plan.unanswered_bind, Plan.unanswered_bind]
        exact congrArg _ (congrArg _ (List.append_nil _))

/-- What a run does with the lease of its feed: it does not get it, or it delivers under it and then
gives it back. -/
theorem handle_stages (around : Surroundings) (s : Setup) (r : Refresh) (w : World) :
    let failed := unanswered around (handle s (.deliver r)) w
    (∃ err n, carryOut around (handle s (.deliver r)) w = (.error err, { w with calls := n }) ∧
      tour around s r w = [] ∧
      (failed = [.acquireLease] ∨
        failed = [] ∧ w.stores.leases.isFree r.feed.id s.holder s.asked = false)) ∨
    ∃ leases n, let v : World := ⟨{ w.stores with leases }, n, w.sent⟩
      tour around s r w = tourUnderLease around s r v ∧
      ∃ leases n, carryOut around (handle s (.deliver r)) w =
          ((carryOut around (deliver s r) v).1,
            ⟨{ (carryOut around (deliver s r) v).2.stores with leases }, n,
              (carryOut around (deliver s r) v).2.sent⟩) ∧
        (failed = unanswered around (deliver s r) v ∧
            leases = w.stores.leases.without r.feed.id ∨
          failed = unanswered around (deliver s r) v ++ [.releaseLease]) := by
  intro failed
  simp only [failed]
  rw [carryOut_handle, unanswered_handle, tour]
  obtain ⟨n, ⟨hf, hc, hu⟩ | ⟨hf, hc, hu⟩ | ⟨⟨err, hc⟩, hu⟩⟩ := carryOut_acquire around
    "lease acquire" r.feed.id s.holder s.asked s.settings.leaseSeconds w
  · let taken := w.stores.leases.taken r.feed.id s.holder
      (Leases.expiry s.asked s.settings.leaseSeconds)
    let v : World := ⟨{ w.stores with leases := taken }, n, w.sent⟩
    have hleases : (carryOut around (deliver s r) v).2.stores.leases = taken :=
      Eq.symm (deliver_relates (R := Stores.Keeps Stores.leases) (fun _ _ _ => rfl)
        (fun _ _ => rfl) (fun _ _ => rfl) (fun _ _ => rfl) around v)
    obtain ⟨leases, m, hr, hl⟩ := carryOut_release around "lease release" r.feed.id s.holder
      (carryOut around (deliver s r) v).2
    rw [hleases, Leases.release_taken] at hl
    rw [acquiring, hc, hu]
    refine Or.inr ⟨taken, n, rfl, leases, m, ?_, ?_⟩
    · dsimp only
      rw [releasing, hr]
    · dsimp only
      rw [List.nil_append, releasing]
      obtain ⟨hl, hn⟩ | hn := hl
      · exact Or.inl ⟨by rw [hn, List.append_nil], hl⟩
      · exact Or.inr (by rw [hn])
  · rw [acquiring, hc, hu]
    exact Or.inl ⟨_, n, rfl, rfl, Or.inr ⟨rfl, hf⟩⟩
  · rw [acquiring, hc, hu]
    exact Or.inl ⟨err, n, rfl, rfl, Or.inl rfl⟩

/-- A run that delivers does not get the lease, or it delivers under it. -/
theorem handle_cases (around : Surroundings) (s : Setup) (r : Refresh) (w : World) :
    (∃ err n, carryOut around (handle s (.deliver r)) w = (.error err, { w with calls := n }) ∧
      tour around s r w = [] ∧
      (around.Disturbed ∨ w.stores.leases.isFree r.feed.id s.holder s.asked = false)) ∨
    ∃ leases n, let v : World := ⟨{ w.stores with leases }, n, w.sent⟩
      tour around s r w = tourUnderLease around s r v ∧
      ∃ leases n, carryOut around (handle s (.deliver r)) w =
          ((carryOut around (deliver s r) v).1,
            ⟨{ (carryOut around (deliver s r) v).2.stores with leases }, n,
              (carryOut around (deliver s r) v).2.sent⟩) ∧
        (around.Disturbed ∨ leases = w.stores.leases.without r.feed.id) := by
  have hd : unanswered around (handle s (.deliver r)) w ≠ [] → around.Disturbed :=
    disturbed_of_unanswered
  obtain ⟨err, n, hc, ht, hf⟩ | ⟨leases, n, ht, leases', m, hc, hl⟩ := handle_stages around s r w
  · exact Or.inl ⟨err, n, hc, ht, hf.imp (fun h => hd (by simp [h])) And.right⟩
  · refine Or.inr ⟨leases, n, ht, leases', m, hc, ?_⟩
    exact hl.elim (fun h => Or.inr h.2) fun h => Or.inl (hd (by simp [h]))

/-- What a run that delivers does to the stores, wherever it is broken off. -/
theorem handle_relates {R : Stores → Stores → Prop} [IsPreorder Stores R]
    (hr : ∀ st (e : Errand) outcome,
      R st { st with records := (st.records.insertNew (e.attempted s r outcome)).2 })
    (hf : ∀ st fingerprints, R st { st with fingerprints })
    (hc : ∀ st counters, R st { st with counters }) (hl : ∀ st ledger, R st { st with ledger })
    (hs : ∀ st leases, R st { st with leases }) (around : Surroundings) (w : World) :
    R w.stores (carryOut around (handle s (.deliver r)) w).2.stores := by
  obtain ⟨err, n, hw, -⟩ | ⟨leases, n, -, leases', m, hw, -⟩ := handle_cases around s r w
  · rw [hw]
    exact refl_of R w.stores
  · rw [hw]
    have hd := deliver_relates hr hf hc hl around ⟨{ w.stores with leases }, n, w.sent⟩
    exact trans_of R (trans_of R (hs w.stores leases) hd) (hs _ leases')

/-- The lease does not matter to how a run ends. -/
theorem Ends.underLease {w x w' : World} {vs : List Visit} {failed more : List Store.Kind}
    {answer : Except Error Report} {leases : Leases} {n : Nat}
    (h : Ends s r ⟨{ w.stores with leases }, n, w.sent⟩ vs x w' failed answer)
    (hm : .resetCounters ∉ more) (leases' : Leases) (m : Nat) :
    Ends s r w vs x ⟨{ w'.stores with leases := leases' }, m, w'.sent⟩ (failed ++ more) answer := by
  cases h with
  | completed visited fingerprints counters => exact .completed visited fingerprints counters
  | brokenOff fingerprints counters failing =>
      refine .brokenOff fingerprints counters fun hf => ?_
      exact (List.mem_append.mp hf).elim failing hm
  | notReset visited counters failing =>
      exact .notReset visited counters (List.mem_append_left _ failing)

/-- The lease of a feed is given back after a call that was not answered, unless that call was about
the lease. -/
theorem handle_leases (around : Surroundings) (s : Setup) (r : Refresh) (w : World) :
    let failed := unanswered around (handle s (.deliver r)) w
    failed ≠ [] → .acquireLease ∉ failed → .releaseLease ∉ failed →
      (carryOut around (handle s (.deliver r)) w).2.stores.leases =
        w.stores.leases.without r.feed.id := by
  intro failed hn ha hr
  obtain ⟨err, n, -, -, hf⟩ | ⟨leases, n, -, leases', m, hc, hl⟩ := handle_stages around s r w
  · obtain hf | ⟨hf, -⟩ := hf
    · exact absurd (by simp [failed, hf]) ha
    · exact absurd hf hn
  · rw [hc]
    obtain ⟨-, hl⟩ | hf := hl
    · exact hl
    · exact absurd (by simp [failed, hf]) hr

/-- How a run goes that takes the lease of its feed, delivers, and gives the lease back. -/
theorem handle_course (around : Surroundings) (s : Setup) (r : Refresh) (w : World) :
    ∃ u x, Course around s r w (tour around s r w) (carryOut around (handle s (.deliver r)) w).1
      (carryOut around (handle s (.deliver r)) w).2 (unanswered around (handle s (.deliver r)) w)
      u x := by
  obtain ⟨err, n, hc, ht, hf⟩ | ⟨leases, n, ht, leases', m, hc, hl⟩ := handle_stages around s r w
  · rw [hc, ht]
    refine ⟨w, w, .of_visits rfl .nil (fun _ hu => nomatch hu) ⟨_, _, _, rfl⟩ ?_⟩
    refine .brokenOff rfl rfl ?_
    obtain hf | ⟨hf, -⟩ := hf <;> simp [hf]
  · obtain ⟨u, x, course⟩ := deliver_course around s r ⟨{ w.stores with leases }, n, w.sent⟩
    obtain ⟨more, hf, hm⟩ : ∃ more,
        unanswered around (handle s (.deliver r)) w =
          unanswered around (deliver s r) ⟨{ w.stores with leases }, n, w.sent⟩ ++ more ∧
        .resetCounters ∉ more := by
      obtain ⟨hf, -⟩ | hf := hl
      · exact ⟨[], by rw [hf, List.append_nil], by simp⟩
      · exact ⟨_, hf, by simp⟩
    rw [hc, ht, hf]
    exact ⟨u, x,
      { linked := course.linked
        start := course.start
        startSent := course.startSent
        finish := course.finish
        finishSent := course.finishSent
        failing := fun v hv => List.subset_append_of_subset_left _ (course.failing v hv)
        ends := course.ends.underLease hm leases' m }⟩

/-- The visits of a run lead from what was there before it to what is there after it. -/
theorem tour_linked (around : Surroundings) (s : Setup) (r : Refresh) (w : World) :
    ∃ v v', Linked around s r (w.stores.records.ofEvent r.id) [] v (tour around s r w) v' ∧
      v.stores.records = w.stores.records ∧ v.sent = w.sent ∧
      (carryOut around (handle s (.deliver r)) w).2.stores.records = v'.stores.records ∧
      (carryOut around (handle s (.deliver r)) w).2.sent = v'.sent := by
  obtain ⟨u, x, course⟩ := handle_course around s r w
  exact ⟨u, x, course.linked, by rw [course.start], course.startSent, course.finish.1,
    course.finishSent⟩

section Tour

variable (around : Surroundings) (s : Setup) (r : Refresh) (w : World)

/-- All that a run sends, it sends in its visits. -/
theorem handle_sent :
    (carryOut around (handle s (.deliver r)) w).2.sent =
      w.sent ++ (tour around s r w).flatMap Visit.sent := by
  obtain ⟨v, v', hl, -, hs, -, hs'⟩ := tour_linked around s r w
  have hg := hl.gains (f := World.sent) fun u hu => hu.sent_eq
  rw [hs', hg, hs]

/-- All that a run records, it records in its visits. -/
theorem handle_records :
    (carryOut around (handle s (.deliver r)) w).2.stores.records.rows =
      w.stores.records.rows ++ (tour around s r w).flatMap Visit.added := by
  obtain ⟨v, v', hl, hr, -, hr', -⟩ := tour_linked around s r w
  have hg := hl.gains (f := fun u => u.stores.records.rows) fun u hu => hu.added_eq.1
  rw [hr', hg, hr]

variable {around s r w} {pre post : List Visit} {v : Visit}

/-- A tour goes through the errands of what was chosen, in their order. -/
theorem tour_errands (around : Surroundings) (s : Setup) (r : Refresh) (w : World) :
    (tour around s r w).map Visit.errand <+: errands r (selected s r w.stores.fingerprints) := by
  obtain ⟨err, n, -, ht, -⟩ | ⟨leases, n, ht, -⟩ := handle_cases around s r w
  · rw [ht]
    exact List.nil_prefix
  · rw [ht, tourUnderLease]
    obtain ⟨m, ⟨recorded, hc, -⟩ | ⟨-, err, hc⟩⟩ := opening_cases around s r
      ⟨{ w.stores with leases }, n, w.sent⟩
    · rw [hc]
      exact visits_errands _
    · rw [hc]
      exact List.nil_prefix

/-- What a visit of a tour starts from. -/
theorem tour_split (h : tour around s r w = pre ++ v :: post) :
    v.IsOf around s r (w.stores.records.ofEvent r.id) ∧
      (∀ u ∈ pre, u.IsOf around s r (w.stores.records.ofEvent r.id) ∧ u.answer.isOk = true) ∧
      (∀ id, id ∈ v.rejected ↔ RejectedIn pre id) ∧
      v.before.stores.records.rows = w.stores.records.rows ++ pre.flatMap Visit.added ∧
      v.before.sent = w.sent ++ pre.flatMap Visit.sent := by
  obtain ⟨u, u', hl, hr, hs, -, -⟩ := tour_linked around s r w
  rw [h] at hl
  obtain ⟨hp, hv, ho, -⟩ := hl.split
  refine ⟨hv, fun x hx => ⟨hp.isOf x hx, ho x hx⟩, fun id => ?_, ?_, ?_⟩
  · simpa using hl.mem_rejected_iff id
  · rw [hp.gains (f := fun u => u.stores.records.rows) fun u hu => hu.added_eq.1, hr]
  · rw [hp.gains (f := World.sent) fun u hu => hu.sent_eq, hs]

/-- A run that comes to its end has visited every errand and reports on all of them. -/
theorem handle_ok {report : Report}
    (h : (carryOut around (handle s (.deliver r)) w).1 = .ok report) :
    let selection := selected s r w.stores.fingerprints
    let after := (carryOut around (handle s (.deliver r)) w).2.stores
    ∃ fates, fates.map Prod.fst = errands r selection ∧
      (tour around s r w).map (fun v => (v.errand, v.answer)) =
        fates.map (fun p => (p.1, .ok p.2)) ∧
      report = .ofFates r.feed.id selection.deliver.length (lanes r selection) fates ∧
      after.fingerprints = (w.stores.fingerprints.insertAll selection.pending).2 ∧
      ∃ cs, after.counters = countersAfter s r fates cs := by
  obtain ⟨u, x, course⟩ := handle_course around s r w
  have hends := course.ends
  rw [h] at hends
  cases hends with
  | @completed fates visited fingerprints counters =>
      exact ⟨fates, visited.1, visited.2, rfl, fingerprints, x.stores.counters, counters⟩

end Tour

section Sample

/-- An article of which only its identity is told. -/
def bareArticle (hash : String) : Article :=
  { flattened := .ofList [(Article.identityField, hash)] }

/-- A connection that says the same of every article. -/
def newsConnection (id : String) : Connection := .toChannel id id "news"

/-- An event with bare articles. -/
def sampleEvent (hashes : List String) (connections : List Connection) : Refresh :=
  { id := "ev", feed := { id := "f" }, articles := hashes.map bareArticle, connections }

/-- A setup in which the first articles of a feed are delivered too. -/
def sampleSetup : Setup := { settings := { skipInitial := false } }

/-- A setup in which the first rejection leads to a request to disable. -/
def strictSetup : Setup := { settings := { skipInitial := false, threshold := 1 } }

/-- The store does not answer the calls of a kind in time. -/
def stalling (kind : Store.Kind) : Surroundings where
  conditions _ k := if k = kind then some .stalled else none

/-- A receiver that takes all messages but those through one connection. -/
def refusing (id : String) : Receiver := fun _ m =>
  if m.connection = id then .answered 400 "" else .accepted

end Sample

end Newswire.Run
