import Newswire.Proofs.Run.Stages

/-!
# Courses

How the visits of a run go on to its answer. A run that comes to its end has visited every errand
and then stores what it chose. One that breaks off has stored nothing of that, unless all it failed
to do was to set the counters back; and what its visits have left stays.
-/

namespace Newswire.Run

variable {around : Surroundings} {s : Setup} {r : Refresh}

section Told

variable {vs : List Visit} {fates : List (Errand × Fate)}
  (hvs : vs.map (fun v => (v.errand, v.answer)) = fates.map fun p => (p.1, .ok p.2))

include hvs

theorem exists_fate {v : Visit} (hv : v ∈ vs) : ∃ fate, v.answer = .ok fate := by
  have hm : (v.errand, v.answer) ∈ vs.map fun v => (v.errand, v.answer) :=
    List.mem_map_of_mem hv
  rw [hvs] at hm
  obtain ⟨⟨e, fate⟩, -, he⟩ := List.mem_map.mp hm
  exact ⟨fate, (congrArg Prod.snd he).symm⟩

/-- Fates are counted by counting visits. -/
theorem length_filter_fates (fate : Fate) :
    (fates.filter (·.2 == fate)).length = vs.countP fun v => v.answer = .ok fate := by
  have hc := congrArg (List.countP fun p => p.2 = .ok fate) hvs
  rw [List.countP_map, List.countP_map] at hc
  rw [← List.countP_eq_length_filter]
  refine (List.countP_congr fun p _ => ?_).trans hc.symm
  simp

end Told

/-- Every errand of a run has been visited, and `fates` is what became of them. -/
def Visited (s : Setup) (r : Refresh) (w : World) (vs : List Visit)
    (fates : List (Errand × Fate)) : Prop :=
  fates.map Prod.fst = errands r (selected s r w.stores.fingerprints) ∧
    vs.map (fun v => (v.errand, v.answer)) = fates.map fun p => (p.1, .ok p.2)

theorem Visited.isOk {w : World} {vs : List Visit} {fates : List (Errand × Fate)}
    (h : Visited s r w vs fates) {v : Visit} (hv : v ∈ vs) : v.answer.isOk = true := by
  obtain ⟨fate, ha⟩ := exists_fate h.2 hv
  rw [ha]
  rfl

/-- How a run that started in `w` came from its last visit, which left `x`, to its answer and to
`w'`, where the calls of `failed` were not answered. -/
inductive Ends (s : Setup) (r : Refresh) (w : World) (vs : List Visit) (x w' : World)
    (failed : List Store.Kind) : Except Error Report → Prop
  | completed {fates} (visited : Visited s r w vs fates)
      (fingerprints : w'.stores.fingerprints = (w.stores.fingerprints.insertAll
        (selected s r w.stores.fingerprints).pending).2)
      (counters : w'.stores.counters = countersAfter s r fates x.stores.counters) :
      Ends s r w vs x w' failed
        (.ok (.ofFates r.feed.id (selected s r w.stores.fingerprints).deliver.length
          (lanes r (selected s r w.stores.fingerprints)) fates))
  | brokenOff {err} (fingerprints : w'.stores.fingerprints = w.stores.fingerprints)
      (counters : w'.stores.counters = x.stores.counters) (failing : .resetCounters ∉ failed) :
      Ends s r w vs x w' failed (.error err)
  /-- Everything was done but that the counters were not set back. -/
  | notReset {err fates} (visited : Visited s r w vs fates)
      (counters : w'.stores.counters = x.stores.counters) (failing : .resetCounters ∈ failed) :
      Ends s r w vs x w' failed (.error err)

/-- How a run went that started in `w`: it visited errands on its way from `u` to `x`, and then came
to an answer and to `w'`. -/
structure Course (around : Surroundings) (s : Setup) (r : Refresh) (w : World) (vs : List Visit)
    (answer : Except Error Report) (w' : World) (failed : List Store.Kind) (u x : World) :
    Prop where
  linked : Linked around s r (w.stores.records.ofEvent r.id) [] u vs x
  start : u.stores = { w.stores with leases := u.stores.leases }
  startSent : u.sent = w.sent
  /-- After the visits only fingerprints, counters and leases change. -/
  finish : w'.stores.records = x.stores.records ∧ w'.stores.ledger = x.stores.ledger
  finishSent : w'.sent = x.sent
  failing : ∀ v ∈ vs, unanswered around
    (visit s r (w.stores.records.ofEvent r.id) v.rejected v.errand) v.before ⊆ failed
  ends : Ends s r w vs x w' failed answer

theorem Course.of_visits {w w' u x : World} {vs : List Visit} {answer : Except Error Report}
    {failed : List Store.Kind} {n : Nat} (hu : u = { w with calls := n })
    (linked : Linked around s r (w.stores.records.ofEvent r.id) [] u vs x)
    (failing : ∀ v ∈ vs, unanswered around
      (visit s r (w.stores.records.ofEvent r.id) v.rejected v.errand) v.before ⊆ failed)
    (hw : ∃ fingerprints counters m, w' = ⟨{ x.stores with fingerprints, counters }, m, x.sent⟩)
    (ends : Ends s r w vs x w' failed answer) : Course around s r w vs answer w' failed u x := by
  subst hu
  obtain ⟨fingerprints, counters, m, rfl⟩ := hw
  exact
    { linked, failing, ends
      start := rfl
      startSent := rfl
      finish := ⟨rfl, rfl⟩
      finishSent := rfl }

section Course

variable {w w' u x : World} {vs : List Visit} {answer : Except Error Report}
  {failed : List Store.Kind} (course : Course around s r w vs answer w' failed u x)

include course

theorem Course.start_counters : u.stores.counters = w.stores.counters := by
  rw [course.start]

theorem Course.start_ledger : u.stores.ledger = w.stores.ledger := by
  rw [course.start]

end Course

/-- The records are not looked up when nothing was chosen, but then there are no errands either. -/
theorem lookup_irrelevant (around : Surroundings) (s : Setup) {r : Refresh} {selection : Selection}
    {recorded known : List (String × String)} (h : selection.deliver ≠ [] → recorded = known)
    (u : World) :
    attemptAll s r recorded [] (errands r selection) =
        attemptAll s r known [] (errands r selection) ∧
      visits around s r recorded [] (errands r selection) u =
        visits around s r known [] (errands r selection) u := by
  by_cases hd : selection.deliver = []
  · have he : errands r selection = [] := by simp [errands, Errand.all, hd]
    rw [he]
    exact ⟨rfl, rfl⟩
  · rw [h hd]
    exact ⟨rfl, rfl⟩

/-- How the visits and the closing of a run go that has opened. -/
theorem visiting_course (around : Surroundings) (s : Setup) (r : Refresh) (v : World) (n : Nat) :
    let selection := selected s r v.stores.fingerprints
    let known := v.stores.records.ofEvent r.id
    let u : World := { v with calls := n }
    let act := attemptAll s r known [] (errands r selection) >>= closing s r selection
    ∃ x, Course around s r v (visits around s r known [] (errands r selection) u)
      (carryOut around act u).1 (carryOut around act u).2 (unanswered around act u) u x := by
  intro selection known u act
  let visiting := attemptAll s r known [] (errands r selection)
  let vs := visits around s r known [] (errands r selection) u
  have hlinked : Linked around s r known [] u vs (carryOut around visiting u).2 := linked_visits _
  have hfailed : ∀ v ∈ vs, unanswered around (visit s r known v.rejected v.errand) v.before ⊆
      unanswered around visiting u := unanswered_visits _
  have hkept := attemptAll_fingerprints around s r known (errands r selection) u
  have hbrittle : Brittle (· ≠ .resetCounters) True visiting :=
    attemptAll_brittle (by simp) fun _ _ _ => trivial
  simp only [act]
  rw [carryOut_bind, unanswered_bind]
  rcases hx : carryOut around visiting u with ⟨err | fates, x⟩ <;> rw [hx] at hlinked hkept
  · have hn : .resetCounters ∉ unanswered around visiting u := by
      obtain ⟨kind, hk, hf⟩ | ⟨-, hf⟩ := hbrittle.unanswered_of_error (congrArg Prod.fst hx)
      · simpa [hf] using hk.symm
      · simp [hf]
    dsimp only
    rw [List.append_nil]
    exact ⟨x, .of_visits rfl hlinked hfailed ⟨_, _, _, rfl⟩ (.brokenOff hkept rfl hn)⟩
  · have hvisited : Visited s r v vs fates := visits_of_ok (congrArg Prod.fst hx)
    have hu : unanswered around visiting u = [] :=
      hbrittle.unanswered_of_ok (congrArg Prod.fst hx)
    rw [hu] at hfailed ⊢
    have hnone {failed : List Store.Kind} : ∀ v ∈ vs,
        unanswered around (visit s r known v.rejected v.errand) v.before ⊆ failed :=
      fun v hv => List.Subset.trans (hfailed v hv) (List.nil_subset _)
    dsimp only
    rw [List.nil_append]
    obtain ⟨m, ⟨hc, hf⟩ | ⟨⟨err, hc⟩, hf⟩ | ⟨⟨err, hc⟩, hf⟩⟩ :=
      closing_cases around s r selection fates x
    · rw [hc, hf]
      exact ⟨x, .of_visits rfl hlinked hfailed ⟨_, _, _, rfl⟩
        (.completed hvisited (by rw [hkept]) rfl)⟩
    · rw [hc, hf]
      exact ⟨x, .of_visits rfl hlinked hnone ⟨_, _, _, rfl⟩ (.brokenOff hkept rfl (by simp))⟩
    · rw [hc, hf]
      exact ⟨x, .of_visits rfl hlinked hnone ⟨_, _, _, rfl⟩ (.notReset hvisited rfl (by simp))⟩

end Newswire.Run
