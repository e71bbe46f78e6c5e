import Newswire.Proofs.Fingerprint.Choosing
import Newswire.Proofs.Run.Leases
import Newswire.Proofs.Run.Visits
import Newswire.Run.Handling

/-!
# The stages of a run

A run that delivers takes the lease of its feed, chooses and looks up what was recorded, goes
through its errands, stores the fingerprints, and gives the lease back. Each stage is told apart
here, with all that it can come to.
-/

namespace Newswire.Run

variable (around : Surroundings) (s : Setup) (r : Refresh)

/-- What a run chooses, given the fingerprints that are stored. -/
def selected (fs : Fingerprints) : Selection :=
  Selection.chosen ⟨s.settings.digests⟩ r.feed.id fs r.articles (options s r.feed) s.now

/-- The connections of a run that has chosen something. -/
def lanes (selection : Selection) : List Lane :=
  if selection.deliver.isEmpty then [] else r.connections.map Lane.ofConnection

/-- Every chosen article, with every connection of the event in their order. -/
def errands (selection : Selection) : List Errand :=
  Errand.all selection.deliver (r.connections.map Lane.ofConnection)

/-- Takes the lease of the feed. -/
def acquiring : Run Bool :=
  store "lease acquire"
    (Store.acquireLease r.feed.id s.holder s.asked s.settings.leaseSeconds)

/-- Gives the lease of the feed back. -/
def releasing : Run Bool := store "lease release" (Store.releaseLease r.feed.id s.holder)

/-- Looks up what was recorded, if something was chosen. -/
def lookup (selection : Selection) : Run (List (String × String)) :=
  if selection.deliver.isEmpty then pure []
  else store "delivery record lookup" (Store.recordsOfEvent r.id)

/-- Chooses, and looks up what was recorded. -/
def opening : Run (Selection × List (String × String)) := do
  let selection ← store "fingerprint selection"
    (Selection.choose ⟨s.settings.digests⟩ r.feed.id r.articles (options s r.feed) s.now)
  let recorded ← lookup r selection
  return (selection, recorded)

/-- Stores the fingerprints, and after a clean run sets the counters back. -/
def closing (selection : Selection) (fates : List (Errand × Fate)) : Run Report := do
  let _ ← store "fingerprint commit" (Selection.commit selection.pending)
  if !fates.any (·.2.isRejection) then
    store "retry reset" (Backoff.succeed r.feed.id s.now)
  return .ofFates r.feed.id selection.deliver.length (lanes r selection) fates

/-- The counters of the feed are set back unless there was a rejection. -/
def countersAfter (fates : List (Errand × Fate)) (cs : Counters) : Counters :=
  if fates.any (·.2.isRejection) then cs else (cs.reset r.feed.id s.now.millis).2

theorem deliver_eq :
    deliver s r =
      opening s r >>= fun (selection, recorded) =>
        attemptAll s r recorded [] (errands r selection) >>= closing s r selection := by
  rw [deliver, opening, bind_assoc]
  refine congrArg _ (funext fun selection => ?_)
  by_cases h : selection.deliver = []
  · simp [lookup, closing, lanes, errands, h, Errand.all, attemptAll]
  · have hl : lanes r selection = r.connections.map Lane.ofConnection := by simp [lanes, h]
    simp only [lookup, h, List.isEmpty_iff, if_false, bind_assoc, pure_bind]
    refine congrArg _ (funext fun recorded => ?_)
    refine congrArg _ (funext fun fates => ?_)
    simp [closing, hl]

/-- A run that delivers takes the lease, delivers, and gives the lease back. -/
theorem carryOut_handle (w : World) :
    carryOut around (handle s (.deliver r)) w =
      match carryOut around (acquiring s r) w with
      | (.ok true, v) =>
        let (answer, u) := carryOut around (deliver s r) v
        (answer, (carryOut around (releasing s r) u).2)
      | (.ok false, v) => (.error (.feedBusy r.feed.id), v)
      | (.error err, v) => (.error err, v) := by
  rw [handle, underLease, carryOut_bind, acquiring]
  generalize carryOut around (store "lease acquire" _) w = taking
  obtain ⟨err | taken, v⟩ := taking
  · rfl
  · cases taken with
    | false => rfl
    | true => exact carryOut_lastly around (deliver s r) _ v

variable {around s r}

theorem lookup_cases (around : Surroundings) (r : Refresh) (selection : Selection) (v : World) :
    ∃ n, (∃ recorded, carryOut around (lookup r selection) v =
        (.ok recorded, { v with calls := n }) ∧
        (selection.deliver ≠ [] → recorded = v.stores.records.ofEvent r.id)) ∨
      around.Disturbed ∧
        ∃ err, carryOut around (lookup r selection) v = (.error err, { v with calls := n }) := by
  unfold lookup
  by_cases he : selection.deliver = []
  · rw [if_pos (by simpa using he)]
    exact ⟨v.calls, Or.inl ⟨[], rfl, fun hn => absurd he hn⟩⟩
  · rw [if_neg (by simpa using he)]
    obtain ⟨n, hc | hc⟩ := (Asks.ask .recordsOfEvent fun st => st.records.ofEvent r.id).store
      "delivery record lookup" around v
    · exact ⟨n, Or.inl ⟨_, hc, fun _ => rfl⟩⟩
    · exact ⟨n, Or.inr hc⟩

/-- The opening of a run gives what it chooses and what has been recorded, or an error, and leaves
all as it was. -/
theorem opening_cases (around : Surroundings) (s : Setup) (r : Refresh) (v : World) :
    let selection := selected s r v.stores.fingerprints
    ∃ n, (∃ recorded, carryOut around (opening s r) v =
        (.ok (selection, recorded), { v with calls := n }) ∧
        (selection.deliver ≠ [] → recorded = v.stores.records.ofEvent r.id)) ∨
      around.Disturbed ∧
        ∃ err, carryOut around (opening s r) v = (.error err, { v with calls := n }) := by
  intro selection
  obtain ⟨n, hc | ⟨hd, err, hc⟩⟩ := (Selection.choose_asks ⟨s.settings.digests⟩ r.feed.id r.articles
    (options s r.feed) s.now).store "fingerprint selection" around v
  · have hc : carryOut around (store "fingerprint selection" (Selection.choose ⟨s.settings.digests⟩
        r.feed.id r.articles (options s r.feed) s.now)) v =
          (.ok selection, { v with calls := n }) := hc
    rw [opening, carryOut_bind, hc]
    dsimp only
    rw [carryOut_bind]
    obtain ⟨m, ⟨recorded, hl, hr⟩ | ⟨hd, err, hl⟩⟩ := lookup_cases around r selection
      { v with calls := n }
    · exact ⟨m, Or.inl ⟨recorded, by rw [hl]; rfl, hr⟩⟩
    · exact ⟨m, Or.inr ⟨hd, err, by rw [hl]⟩⟩
  · exact ⟨n, Or.inr ⟨hd, err, by rw [opening, carryOut_bind, hc]⟩⟩

theorem opening_brittle {K : Store.Kind → Prop} {B : Prop}
    (hk : ∀ kind ∈ [.hasField, .seenValues, .recordsOfEvent], K kind) :
    Brittle K B (opening s r) := by
  refine .bind (.store _ ?_) fun selection => .bind (.ite (.pure _) ?_) fun recorded => .pure _
  · exact Selection.choose_brittle (hk _ (by simp)) (hk _ (by simp)) _ _ _ _ _
  · exact .store _ (.call (hk _ (by simp)) _)

theorem closing_confined {R : Stores → Stores → Prop} {P : Sending → Prop} {selection : Selection}
    (hf : ∀ st,
      R st { st with fingerprints := (st.fingerprints.insertAll selection.pending).2 })
    (hc : ∀ st, R st { st with counters := (st.counters.reset r.feed.id s.now.millis).2 })
    (fates : List (Errand × Fate)) : Confined R P (closing s r selection fates) := by
  refine .bind (.store _ ?_) fun _ => ?_
  · unfold Selection.commit
    split
    · exact .pure _
    · exact .call hf
  · split
    · exact .bind (.store _ (.bind (.call hc) fun _ => .pure _)) fun _ => .pure _
    · exact .pure _

theorem commit_cases (around : Surroundings) (step : String) (pending : List Fingerprint)
    (w : World) :
    let fingerprints := (w.stores.fingerprints.insertAll pending).2
    let act := store step (Selection.commit pending)
    ∃ n, (∃ k, carryOut around act w = (.ok k, ⟨{ w.stores with fingerprints }, n, w.sent⟩)) ∧
        unanswered around act w = [] ∨
      (∃ err, carryOut around act w = (.error err, { w with calls := n })) ∧
        unanswered around act w = [.insertFingerprints] := by
  intro fingerprints act
  simp only [act]
  rw [carryOut_store, unanswered_store]
  obtain ⟨n, ⟨⟨k, hc⟩, hu⟩ | ⟨⟨o, hc⟩, hu⟩⟩ := Selection.commit_cases around pending w
  · exact ⟨n, Or.inl ⟨⟨k, by rw [hc]; rfl⟩, hu⟩⟩
  · exact ⟨n, Or.inr ⟨⟨_, by rw [hc]; rfl⟩, hu⟩⟩

/-- A run that has visited its errands stores the fingerprints and sets the counters back, or it
breaks off at one of the two. -/
theorem closing_cases (around : Surroundings) (s : Setup) (r : Refresh) (selection : Selection)
    (fates : List (Errand × Fate)) (w : World) :
    let fingerprints := (w.stores.fingerprints.insertAll selection.pending).2
    let act := closing s r selection fates
    ∃ n,
      (carryOut around act w =
          (.ok (.ofFates r.feed.id selection.deliver.length (lanes r selection) fates),
            ⟨{ w.stores with
              fingerprints, counters := countersAfter s r fates w.stores.counters }, n, w.sent⟩) ∧
        unanswered around act w = []) ∨
      (∃ err, carryOut around act w = (.error err, { w with calls := n })) ∧
        unanswered around act w = [.insertFingerprints] ∨
      (∃ err, carryOut around act w =
          (.error err, ⟨{ w.stores with fingerprints }, n, w.sent⟩)) ∧
        unanswered around act w = [.resetCounters] := by
  intro fingerprints act
  simp only [act]
  rw [closing, carryOut_bind, unanswered_bind]
  obtain ⟨n, ⟨⟨k, hc⟩, hu⟩ | ⟨⟨err, hc⟩, hu⟩⟩ := commit_cases around "fingerprint commit"
    selection.pending w
  · rw [hc, hu]
    unfold countersAfter
    cases fates.any (·.2.isRejection) with
    | true => exact ⟨n, Or.inl ⟨rfl, rfl⟩⟩
    | false =>
        refine ⟨n + 1, ?_⟩
        dsimp only
        rw [Bool.not_false, if_pos rfl, carryOut_bind, unanswered_bind, carryOut_store,
          unanswered_store, Backoff.succeed, carryOut_bind, unanswered_bind, Store.resetCounters,
          carryOut_call, unanswered_call]
        cases around.conditions n .resetCounters with
        | some o => exact Or.inr (Or.inr ⟨⟨_, rfl⟩, rfl⟩)
        | none => exact Or.inl ⟨rfl, rfl⟩
  · rw [hc, hu]
    exact ⟨n, Or.inr (Or.inl ⟨⟨err, rfl⟩, rfl⟩)⟩

theorem attemptAll_fingerprints (around : Surroundings) (s : Setup) (r : Refresh)
    (recorded : List (String × String)) (es : List Errand) (w : World) :
    (carryOut around (attemptAll s r recorded [] es) w).2.stores.fingerprints =
      w.stores.fingerprints := by
  have hc : Confined (Stores.Keeps Stores.fingerprints) (fun _ => True)
      (attemptAll s r recorded [] es) :=
    attemptAll_confined (fun _ _ _ => rfl) (fun _ _ => rfl) (fun _ _ => rfl) (fun _ => trivial) es
  exact Eq.symm (hc.carryOut around w).1

/-- What a run that has the lease does to the stores, wherever it is broken off. -/
theorem deliver_relates {R : Stores → Stores → Prop} [IsPreorder Stores R]
    (hr : ∀ st (e : Errand) outcome,
      R st { st with records := (st.records.insertNew (e.attempted s r outcome)).2 })
    (hf : ∀ st fingerprints, R st { st with fingerprints })
    (hc : ∀ st counters, R st { st with counters }) (hl : ∀ st ledger, R st { st with ledger })
    (around : Surroundings) (v : World) :
    R v.stores (carryOut around (deliver s r) v).2.stores := by
  obtain ⟨n, ⟨recorded, ho, -⟩ | ⟨-, err, ho⟩⟩ := opening_cases around s r v
  · rw [deliver_eq, carryOut_bind, ho]
    have hs : Confined R (fun _ => True)
        (attemptAll s r recorded [] (errands r (selected s r v.stores.fingerprints)) >>=
          closing s r (selected s r v.stores.fingerprints)) := by
      refine .bind (attemptAll_confined hr hc hl (fun _ => trivial) _) fun fates => ?_
      exact closing_confined (fun st => hf st _) (fun st => hc st _) fates
    exact (hs.carryOut around { v with calls := n }).1
  · rw [deliver_eq, carryOut_bind, ho]
    exact refl_of R v.stores

end Newswire.Run
