import Newswire.Proofs.Run.Tours

/-!
# Accounts

What a run reports is what happened in its visits. Every errand has one fate, which is told by the
visits before it, the records from before the run and the ledger; and the results that go out are
the records that were added, in their order.
-/

namespace Newswire

/-- What goes out about a record. -/
def Delivery.Record.result (x : Delivery.Record) : Event.Output :=
  .delivered x.attempt.feed x.attempt.connection x.attempt.article x.attempt.outcome.status
    x.attempt.outcome.trouble?

namespace Run

/-- What is said of one errand that ended, by the visit to it. -/
structure Visit.Ended (around : Surroundings) (s : Setup) (r : Refresh) (v : Visit) (x : Ending) :
    Prop where
  /-- Everything about the outcome: it is settled beforehand, or no message can be made, or it is
  what came of the exchange with the receiver. -/
  settles : ∃ ledger, v.errand.Settles around s r v.before x.outcome x.rejection ledger v.sent
  filteredOut : x.outcome.status = .filteredOut ↔
    ∃ fields, Message.Derivation.addAll v.errand.article.flattened v.errand.connection.derivations =
        .ok fields ∧
      (v.errand.lane.screen.judge fields false).passed = false
  sent : x.outcome.status = .sent ↔
    ∃ fields payloads, v.errand.prospect = .toSend fields ∧
      v.errand.composed s fields = .ok payloads ∧
      Accepts around.receiver v.before.sent (payloads.map v.errand.connection.sending) ∧
      v.sent = payloads.map v.errand.connection.sending
  /-- One record is added, unless there is one of the same key by now. -/
  added : v.added =
    if v.before.stores.records.covers (v.errand.attempted s r x.outcome) then []
    else [⟨.drawn v.before.stores.records.freshNumber, v.errand.attempted s r x.outcome⟩]

/-- The report of a run in a world, which the run leaves as `w'`, agrees with its visits. -/
structure Account (around : Surroundings) (s : Setup) (r : Refresh) (w w' : World)
    (report : Report) (vs : List Visit) : Prop where
  /-- The chosen articles are taken to all connections, in their order. -/
  errands : vs.map Visit.errand = errands r (selected s r w.stores.fingerprints)
  selected : report.selected = (selected s r w.stores.fingerprints).deliver.length
  fate : ∀ pre v post, vs = pre ++ v :: post → ∃ fate, v.answer = .ok fate ∧
    (fate = .suppressed ↔ RejectedIn pre v.errand.connection.id) ∧
    (fate = .skipped ↔ ¬RejectedIn pre v.errand.connection.id ∧
      v.errand.key ∈ w.stores.records.ofEvent r.id) ∧
    (fate = .withheld ↔ ¬RejectedIn pre v.errand.connection.id ∧
      v.errand.key ∉ w.stores.records.ofEvent r.id ∧ v.errand.Refused s r v.before) ∧
    ((∃ x, fate = .ended x) ↔ ¬RejectedIn pre v.errand.connection.id ∧
      v.errand.key ∉ w.stores.records.ofEvent r.id ∧ ¬v.errand.Refused s r v.before)
  /-- A visit finds what the visits before it have sent and recorded. -/
  before : ∀ pre v post, vs = pre ++ v :: post →
    v.before.sent = w.sent ++ pre.flatMap Visit.sent ∧
    v.before.stores.records.rows = w.stores.records.rows ++ pre.flatMap Visit.added
  ended : ∀ v ∈ vs, ∀ x, v.answer = .ok (.ended x) → v.Ended around s r x
  idle : ∀ v ∈ vs, (∀ x, v.answer ≠ .ok (.ended x)) → v.added = [] ∧ v.sent = []
  skipped : report.skipped = vs.countP fun v => v.answer = .ok .skipped
  withheld : report.withheld = vs.countP fun v => v.answer = .ok .withheld
  sent : w'.sent = w.sent ++ vs.flatMap Visit.sent
  records : w'.stores.records.rows = w.stores.records.rows ++ vs.flatMap Visit.added
  results : report.events.filter Event.Output.isResult =
    (vs.flatMap Visit.added).map Delivery.Record.result

variable {around : Surroundings} {s : Setup} {r : Refresh} {w : World} {report : Report}

theorem lane_events_filter (feed : String) (l : Lane) :
    (l.events feed).filter Event.Output.isResult = [] := by
  unfold Lane.events
  split <;> simp [Event.Output.isResult]

theorem status_filteredOut_iff (o : Delivery.Outcome) :
    o.status = .filteredOut ↔ o = .filteredOut := by
  cases o <;> simp [Delivery.Outcome.status]

theorem status_sent_iff (o : Delivery.Outcome) : o.status = .sent ↔ o = .sent := by
  cases o <;> simp [Delivery.Outcome.status]

/-- The results among what goes out about an errand are those of the records that it left. -/
theorem Visit.IsOf.results {recorded : List (String × String)} {v : Visit} {fate : Fate}
    (h : v.IsOf around s r recorded) (ha : v.answer = .ok fate) :
    (fate.events r.feed.id v.errand).filter Event.Output.isResult =
      v.added.map Delivery.Record.result := by
  cases fate with
  | ended x =>
      obtain ⟨-, hadded, hi⟩ := h.ended ha
      have hd : (x.disable.toList.map Event.Output.disable).filter Event.Output.isResult = [] := by
        simp [Event.Output.isResult]
      rw [hadded, Delivery.Records.added, Fate.events, List.filter_append, hd, List.append_nil, hi]
      cases v.before.stores.records.covers (v.errand.attempted s r x.outcome) with
      | true => rfl
      | false => rfl
  | suppressed => simp [Fate.events, h.idle ha]
  | skipped => simp [Fate.events, h.idle ha]
  | withheld => simp [Fate.events, h.idle ha]

section Told

variable {vs : List Visit} {fates : List (Errand × Fate)}
  (hvs : vs.map (fun v => (v.errand, v.answer)) = fates.map fun p => (p.1, .ok p.2))

include hvs

/-- What goes out about the fates goes out about the visits. -/
theorem fates_events (feed : String) :
    (fates.flatMap fun (e, f) => f.events feed e) =
      vs.flatMap fun v => (v.answer.toOption.map fun f => f.events feed v.errand).getD [] := by
  have hf := congrArg (List.flatMap fun p : Errand × Except Error Fate =>
    (p.2.toOption.map fun f => f.events feed p.1).getD []) hvs
  rw [List.flatMap_map, List.flatMap_map] at hf
  exact hf.symm

end Told

/-- A run that comes to its end has given every errand its one fate, and what it reports is what
happened and what it recorded. -/
theorem handle_account (around : Surroundings) (s : Setup) (r : Refresh) (w : World)
    (report : Report) (h : (carryOut around (handle s (.deliver r)) w).1 = .ok report) :
    Account around s r w (carryOut around (handle s (.deliver r)) w).2 report
      (tour around s r w) := by
  obtain ⟨fates, hes, hvs, rfl, -⟩ := handle_ok h
  have isOf {v : Visit} (hv : v ∈ tour around s r w) :
      v.IsOf around s r (w.stores.records.ofEvent r.id) := by
    obtain ⟨pre, post, hsplit⟩ := List.append_of_mem hv
    exact (tour_split hsplit).1
  refine
    { errands := ?errands
      selected := rfl
      fate := ?fate
      before := ?before
      ended := ?ended
      idle := ?idle
      skipped := length_filter_fates hvs .skipped
      withheld := length_filter_fates hvs .withheld
      sent := handle_sent around s r w
      records := handle_records around s r w
      results := ?results }
  case errands =>
    have he := congrArg (List.map Prod.fst) hvs
    rw [List.map_map, List.map_map] at he
    exact he.trans hes
  case fate =>
    intro pre v post hsplit
    obtain ⟨hv, -, hr, -⟩ := tour_split hsplit
    have hmem : v ∈ tour around s r w := by simp [hsplit]
    obtain ⟨fate, ha⟩ := exists_fate hvs hmem
    refine ⟨fate, ha, ?_⟩
    rw [← hr]
    obtain ⟨rfl, h⟩ | ⟨rfl, h⟩ | ⟨rfl, h⟩ | ⟨x, rfl, h⟩ := hv.fate_cases ha <;> simp [h]
  case before =>
    intro pre v post hsplit
    obtain ⟨-, -, -, hrows, hsent⟩ := tour_split hsplit
    exact ⟨hsent, hrows⟩
  case ended =>
    intro v hv x ha
    obtain ⟨⟨ledger, hs⟩, hadded, -⟩ := (isOf hv).ended ha
    exact
      { settles := ⟨ledger, hs⟩
        filteredOut := (status_filteredOut_iff x.outcome).trans hs.filteredOut_iff
        sent := (status_sent_iff x.outcome).trans hs.sent_iff
        added := hadded }
  case idle =>
    intro v hv hn
    obtain ⟨fate, ha⟩ := exists_fate hvs hv
    exact (isOf hv).idle ha fun x hx => hn x (hx ▸ ha)
  case results =>
    have hlanes (ls : List Lane) :
        (ls.flatMap (Lane.events r.feed.id)).filter Event.Output.isResult = [] := by
      rw [List.filter_flatMap]
      exact List.flatMap_eq_nil_iff.mpr fun l _ => lane_events_filter r.feed.id l
    rw [Report.ofFates, List.filter_append, hlanes, List.nil_append, fates_events hvs,
      List.filter_flatMap, List.map_flatMap]
    refine List.flatMap_congr fun v hv => ?_
    obtain ⟨fate, ha⟩ := exists_fate hvs hv
    rw [ha]
    exact (isOf hv).results ha

/-- Two articles on their way to three connections. The second is rejected, the last leads nowhere
and has a record of one article already, and only two deliveries are allowed in a day. -/
def mixedEvent : Refresh :=
  let r := sampleEvent ["x", "y"] [newsConnection "a", newsConnection "b", { id := "c" }]
  { r with feed := { r.feed with dailyLimit := some 2 } }

def mixedWorld : World where
  stores := { records := ⟨[⟨.drawn 1, ⟨"ev", "f", "c", "x", .sent, 0⟩⟩]⟩ }

def mixedReport : Report where
  events :=
    [.delivered "f" "a" "y" .sent none,
     .delivered "f" "b" "y" .failed (some .receiverBadRequest),
     .delivered "f" "c" "y" .failed (some .noTarget)]
  selected := 2
  withheld := 1
  skipped := 1

/-- A run in which an errand is sent, and others are rejected, withheld, suppressed and skipped. -/
theorem account_of_mixedEvent :
    (carryOut { receiver := refusing "b" } (handle sampleSetup (.deliver mixedEvent))
        mixedWorld).1 = .ok mixedReport ∧
      Account { receiver := refusing "b" } sampleSetup mixedEvent mixedWorld
        (carryOut { receiver := refusing "b" } (handle sampleSetup (.deliver mixedEvent))
          mixedWorld).2
        mixedReport (tour { receiver := refusing "b" } sampleSetup mixedEvent mixedWorld) := by
  have h : (carryOut { receiver := refusing "b" } (handle sampleSetup (.deliver mixedEvent))
      mixedWorld).1 = .ok mixedReport := by decide +kernel
  exact ⟨h, handle_account _ _ _ _ _ h⟩

end Run

end Newswire
