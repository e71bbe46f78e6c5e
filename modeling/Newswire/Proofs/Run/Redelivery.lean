import Newswire.Proofs.Rejection.Counters
import Newswire.Proofs.Run.Tours

/-!
# Redelivery

After a run that came to its end the same event is handled again. Nothing is chosen then, so that
nothing is sent or recorded; the run is a clean one and sets the counters of the feed back.
-/

namespace Newswire.Run

variable {s : Setup} {r : Refresh}

/-- Where nothing was chosen and nothing is to be stored, the end of a run sets the counters
back. -/
theorem closing_none (around : Surroundings) {selection : Selection}
    (hd : selection.deliver = []) (hp : selection.pending = []) (w : World) :
    ∃ n, carryOut around (closing s r selection []) w =
        (.ok {}, ⟨{ w.stores with
          counters := (w.stores.counters.reset r.feed.id s.now.millis).2 }, n, w.sent⟩) ∨
      around.Disturbed ∧ ∃ err, carryOut around (closing s r selection []) w =
        (.error err, { w with calls := n }) := by
  have hreport : Report.ofFates r.feed.id selection.deliver.length (lanes r selection) [] = {} := by
    rw [lanes, hd]
    rfl
  have hsame : (w.stores.fingerprints.insertAll selection.pending).2 = w.stores.fingerprints := by
    rw [hp]
    rfl
  have hdisturbed : unanswered around (closing s r selection []) w ≠ [] → around.Disturbed :=
    disturbed_of_unanswered
  have hcases := closing_cases around s r selection [] w
  rw [hreport, hsame] at hcases
  obtain ⟨n, ⟨hc, -⟩ | ⟨⟨err, hc⟩, hf⟩ | ⟨⟨err, hc⟩, hf⟩⟩ := hcases
  · exact ⟨n, Or.inl hc⟩
  · exact ⟨n, Or.inr ⟨hdisturbed (by simp [hf]), err, hc⟩⟩
  · exact ⟨n, Or.inr ⟨hdisturbed (by simp [hf]), err, hc⟩⟩

/-- A run that finds nothing to deliver and nothing to store. -/
theorem deliver_none (around : Surroundings) (v : World)
    (hd : (selected s r v.stores.fingerprints).deliver = [])
    (hp : (selected s r v.stores.fingerprints).pending = []) :
    ∃ n, carryOut around (deliver s r) v =
        (.ok {}, ⟨{ v.stores with
          counters := (v.stores.counters.reset r.feed.id s.now.millis).2 }, n, v.sent⟩) ∨
      around.Disturbed ∧ ∃ err, carryOut around (deliver s r) v =
        (.error err, { v with calls := n }) := by
  have he : errands r (selected s r v.stores.fingerprints) = [] := by
    simp [errands, Errand.all, hd]
  rw [deliver_eq, carryOut_bind]
  obtain ⟨n, ⟨recorded, hc, -⟩ | ⟨hdis, err, hc⟩⟩ := opening_cases around s r v
  · rw [hc]
    dsimp only
    rw [he, attemptAll, pure_bind]
    exact closing_none around hd hp { v with calls := n }
  · exact ⟨n, Or.inr ⟨hdis, err, by rw [hc]⟩⟩

theorem handle_none (around : Surroundings) (w : World)
    (hd : (selected s r w.stores.fingerprints).deliver = [])
    (hp : (selected s r w.stores.fingerprints).pending = []) :
    ∃ leases n, (carryOut around (handle s (.deliver r)) w =
        (.ok {}, ⟨{ w.stores with
          counters := (w.stores.counters.reset r.feed.id s.now.millis).2, leases }, n, w.sent⟩) ∧
        (around.Disturbed ∨ leases = w.stores.leases.without r.feed.id)) ∨
      (around.Disturbed ∨ w.stores.leases.isFree r.feed.id s.holder s.asked = false) ∧
        ∃ err, carryOut around (handle s (.deliver r)) w =
          (.error err, ⟨{ w.stores with leases }, n, w.sent⟩) := by
  obtain ⟨err, n, hw, -, hf⟩ | ⟨leases, n, -, leases', m, hw, hl⟩ := handle_cases around s r w
  · exact ⟨w.stores.leases, n, Or.inr ⟨hf, err, hw⟩⟩
  · rw [hw]
    obtain ⟨k, hc | ⟨hdis, err, hc⟩⟩ := deliver_none around ⟨{ w.stores with leases }, n, w.sent⟩
      hd hp
    · rw [hc]
      exact ⟨leases', m, Or.inl ⟨rfl, hl⟩⟩
    · rw [hc]
      exact ⟨leases', m, Or.inr ⟨Or.inl hdis, err, rfl⟩⟩

/-- A run over a feed has sent, recorded, reserved and stored nothing, and its report is empty. If
it came to its end the counters of the feed are at zero; those of other feeds are as they were. -/
structure NothingNew (feed : String) (w : World) (answer : Except Error Report) (w' : World) :
    Prop where
  sent : w'.sent = w.sent
  records : w'.stores.records = w.stores.records
  ledger : w'.stores.ledger = w.stores.ledger
  fingerprints : w'.stores.fingerprints = w.stores.fingerprints
  report : ∀ report, answer = .ok report → report = {}
  reset : ∀ report, answer = .ok report →
    ∀ scope, w'.stores.counters.attempts feed scope = 0
  others : ∀ other, other ≠ feed →
    ∀ scope, w'.stores.counters.get? other scope = w.stores.counters.get? other scope
  brokenOff : ∀ err, answer = .error err → w'.stores.counters = w.stores.counters

theorem nothingNew_of_reset (feed : String) (now : Int) (w : World) (leases : Leases) (n : Nat) :
    NothingNew feed w (.ok {})
      ⟨{ w.stores with counters := (w.stores.counters.reset feed now).2, leases }, n, w.sent⟩ where
  sent := rfl
  records := rfl
  ledger := rfl
  fingerprints := rfl
  report _ hr := (Except.ok.inj hr).symm
  reset _ _ scope := w.stores.counters.reset_attempts feed scope now
  others _ ho scope := w.stores.counters.reset_get?_of_ne ho scope now
  brokenOff _ he := nomatch he

theorem nothingNew_of_error (feed : String) (err : Error) (w : World) (leases : Leases) (n : Nat) :
    NothingNew feed w (.error err) ⟨{ w.stores with leases }, n, w.sent⟩ where
  sent := rfl
  records := rfl
  ledger := rfl
  fingerprints := rfl
  report _ hr := nomatch hr
  reset _ hr := nomatch hr
  others _ _ _ := rfl
  brokenOff _ _ := rfl

/-- Where articles are let through when their identity is new, identities are kept as they are. -/
def KeepsIdentities (s : Setup) (r : Refresh) : Prop :=
  Article.identityField ∈ r.feed.passing → ∀ a ∈ r.articles, ∀ hash,
    a.filled? Article.identityField = some hash →
      (Fingerprint.Policy.kept ⟨s.settings.digests⟩ hash).1 = hash

section Again

variable {around : Surroundings} {w : World} {report : Report}
  (h : (carryOut around (handle s (.deliver r)) w).1 = .ok report)

include h

/-- After a run that came to its end there is nothing of its event to choose or to store. -/
theorem selected_after (hk : KeepsIdentities s r) (now asked : Instant) (holder : String) :
    let again := selected { s with now, asked, holder } r
      (carryOut around (handle s (.deliver r)) w).2.stores.fingerprints
    again.deliver = [] ∧ again.pending = [] := by
  obtain ⟨fates, -, -, -, hf, -⟩ := handle_ok h
  rw [hf]
  exact Selection.chosen_storedAfter ⟨s.settings.digests⟩ r.feed.id w.stores.fingerprints r.articles
    (options s r.feed) s.now now hk

/-- After a run without rejections there is nothing to set back. -/
theorem counters_after (hc : ∀ v ∈ tour around s r w, v.isRejection = false) (now : Int) :
    let cs := (carryOut around (handle s (.deliver r)) w).2.stores.counters
    (cs.reset r.feed.id now).2 = cs := by
  obtain ⟨fates, -, hvs, -, -, cs, hcs⟩ := handle_ok h
  have hn : fates.any (·.2.isRejection) = false := by
    refine List.any_eq_false.mpr fun p hp => ?_
    have hm : (p.1, Except.ok p.2) ∈ fates.map fun p => (p.1, (.ok p.2 : Except Error Fate)) :=
      List.mem_map_of_mem hp
    rw [← hvs] at hm
    obtain ⟨v, hv, he⟩ := List.mem_map.mp hm
    have ha : v.answer = .ok p.2 := congrArg Prod.snd he
    have hr := hc v hv
    rw [Visit.isRejection, ha] at hr
    exact Bool.eq_false_iff.mp hr
  intro cs'
  simp only [cs', hcs, countersAfter, hn]
  exact Counters.reset_reset ..

/-- A run that came to its end undisturbed has given the lease back. -/
theorem leases_after (hd : ¬around.Disturbed) :
    (carryOut around (handle s (.deliver r)) w).2.stores.leases =
      w.stores.leases.without r.feed.id := by
  obtain ⟨err, n, hw, -⟩ | ⟨leases, n, -, leases', m, hw, hl⟩ := handle_cases around s r w
  · rw [hw] at h
    cases h
  · rw [hw]
    exact hl.resolve_left hd

end Again

/-- When an event is handled again after a run that came to its end, in whatever surroundings,
nothing is sent, recorded, reserved or stored, and the counters of the feed are set back, which
changes nothing after a run without rejections. Where nothing befalls the calls of the two runs, the
second comes to its end as well and leaves the leases as they were. What is said of calls that get
no answer rests on `Surroundings.isAtomic`. -/
theorem handle_again (around around' : Surroundings) (s : Setup) (r : Refresh) (w : World)
    (report : Report) (now asked : Instant) (holder : String) (hk : KeepsIdentities s r)
    (h : (carryOut around (handle s (.deliver r)) w).1 = .ok report) :
    let first := carryOut around (handle s (.deliver r)) w
    let again := carryOut around' (handle { s with now, asked, holder } (.deliver r)) first.2
    NothingNew r.feed.id first.2 again.1 again.2 ∧
      ((∀ v ∈ tour around s r w, v.isRejection = false) →
        again.2.stores.counters = first.2.stores.counters) ∧
      (¬around.Disturbed → ¬around'.Disturbed →
        again.1 = .ok {} ∧ again.2.stores.leases = first.2.stores.leases) := by
  intro first again
  obtain ⟨hdeliver, hpending⟩ := selected_after h hk now asked holder
  have hleases := leases_after h
  obtain ⟨leases, n, ⟨hw, hl⟩ | ⟨hf, err, hw⟩⟩ := handle_none around' first.2 hdeliver hpending
  · rw [show again = _ from hw]
    refine ⟨nothingNew_of_reset .., fun hc => counters_after h hc now.millis, fun hd hd' => ?_⟩
    refine ⟨rfl, ?_⟩
    rw [hl.resolve_left hd', hleases hd, Leases.without_without]
  · rw [show again = _ from hw]
    refine ⟨nothingNew_of_error .., fun _ => rfl, fun hd hd' => ?_⟩
    have hfree : first.2.stores.leases.isFree r.feed.id holder asked = true := by
      rw [hleases hd, Leases.isFree_without]
    rw [hfree] at hf
    exact absurd (hf.resolve_right (by simp)) hd'

/-- An event that lets articles through again when their identity is new. -/
def comparedEvent : Refresh :=
  let r := sampleEvent ["x"] [newsConnection "c"]
  { r with feed := { r.feed with passing := [Article.identityField] } }

def refusedReport : Report where
  events := [.delivered "f" "c" "x" .failed (some .receiverBadRequest)]
  selected := 1

/-- What is left after an event whose messages through one connection were refused. -/
def refusedWorld (s : Setup) (r : Refresh) : World :=
  (carryOut { receiver := refusing "c" } (handle s (.deliver r)) {}).2

/-- What is left when the event is then handled again. -/
def retriedWorld (s : Setup) (r : Refresh) : World :=
  (carryOut {} (handle s (.deliver r)) (refusedWorld s r)).2

/-- An event that is handled again makes a rejection forgotten; and where identities are compared
but kept as digests, it sends the articles of a first run, which had sent none. -/
theorem retriedWorld_differs :
    ((carryOut { receiver := refusing "c" } (handle sampleSetup
          (.deliver (sampleEvent ["x"] [newsConnection "c"]))) {}).1 = .ok refusedReport ∧
        (refusedWorld sampleSetup (sampleEvent ["x"] [newsConnection "c"])).stores.counters.attempts
          "f" (.connection "c") = 1 ∧
        (retriedWorld sampleSetup (sampleEvent ["x"] [newsConnection "c"])).stores.counters.attempts
          "f" (.connection "c") = 0) ∧
      (carryOut { receiver := refusing "c" } (handle {} (.deliver comparedEvent)) {}).1 = .ok {} ∧
      (refusedWorld {} comparedEvent).sent = [] ∧ (retriedWorld {} comparedEvent).sent ≠ [] := by
  decide +kernel

/-- A setup in which values are kept as they are. -/
def plainSetup : Setup := { settings := { skipInitial := false, digests := false } }

theorem keepsIdentities_comparedEvent : KeepsIdentities plainSetup comparedEvent := by
  intro _ a ha hash hf
  obtain rfl : a = bareArticle "x" := List.mem_singleton.mp ha
  obtain rfl : "x" = hash := Option.some.inj ((by decide +kernel : _ = some "x").symm.trans hf)
  decide +kernel

/-- The same a little later. -/
def laterSetup : Setup :=
  { plainSetup with now := .ofMillis 2, asked := .ofMillis 1, holder := "second" }

/-- After an event whose message was refused nothing more is sent, and the counters are set back. -/
theorem handle_again_after_refusal :
    NothingNew "f" (refusedWorld plainSetup comparedEvent)
        (carryOut {} (handle laterSetup (.deliver comparedEvent))
          (refusedWorld plainSetup comparedEvent)).1
        (carryOut {} (handle laterSetup (.deliver comparedEvent))
          (refusedWorld plainSetup comparedEvent)).2 :=
  (handle_again { receiver := refusing "c" } {} plainSetup comparedEvent {} refusedReport
    laterSetup.now laterSetup.asked "second" keepsIdentities_comparedEvent (by decide +kernel)).1

end Newswire.Run
