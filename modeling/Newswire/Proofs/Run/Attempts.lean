import Newswire.Proofs.Delivery.Records
import Newswire.Proofs.Quota.Ledger
import Newswire.Proofs.Run.Exchange
import Newswire.Run.Delivering

/-!
# Attempts

What a run does with one errand: everything that an attempt can come to when it is not broken off,
and what it sends in any case.
-/

namespace Newswire

namespace Run

variable (around : Surroundings) (s : Setup) (r : Refresh)

namespace Errand

/-- What is recorded of an errand. -/
def attempted (e : Errand) (outcome : Delivery.Outcome) : Delivery.Attempt :=
  ⟨r.id, r.feed.id, e.connection.id, e.identity, outcome, s.now.millis⟩

/-- What the ledger says to an errand. -/
def decision (e : Errand) (w : World) : Quota.Decision × Quota.Ledger :=
  w.stores.ledger.reserve r.feed.id e.connection.id (limits s r e) s.now

/-- The messages that are made for an errand. -/
def composed (e : Errand) (fields : Fields) : Except Message.Failure (List Message.Payload) :=
  Message.compose s.settings.maxLength e.connection.options e.connection.outline fields

/-- The exchange about the messages of an errand. -/
def talk (e : Errand) (w : World) (payloads : List Message.Payload) :
    List (Sending × Delivery.Response) :=
  exchange around.receiver w.sent (payloads.map e.connection.sending)

/-- The ending of an errand and the stores after it, when every call is answered. -/
def concluded (e : Errand) (outcome : Delivery.Outcome) (rejection : Option Rejection)
    (st : Stores) : Ending × Stores :=
  let (isRecorded, records) := st.records.insertNew (e.attempted s r outcome)
  match rejection with
  | none => ({ outcome, isRecorded }, { st with records })
  | some x =>
    let scope := Scope.connection e.connection.id
    let (n, counters) := st.counters.increment r.feed.id scope s.now.millis
    ({ outcome, isRecorded, rejection
       disable := disableRequest? s.settings.threshold r.feed.id scope x n },
     { st with records, counters })

/-- An errand has something to send, and no reservation for it is allowed. -/
def Refused (e : Errand) (w : World) : Prop :=
  (∃ fields, e.prospect = .toSend fields) ∧ ∀ id, (e.decision s r w).1 ≠ .allowed id

section Concluded

variable (e : Errand) (outcome : Delivery.Outcome) (rejection : Option Rejection) (st : Stores)

theorem concluded_ending :
    (e.concluded s r outcome rejection st).1.outcome = outcome ∧
      (e.concluded s r outcome rejection st).1.rejection = rejection ∧
      (e.concluded s r outcome rejection st).1.isRecorded =
        !st.records.covers (e.attempted s r outcome) := by
  have hi := st.records.insertNew_added (e.attempted s r outcome)
  cases rejection with
  | none => exact ⟨rfl, rfl, hi⟩
  | some x => exact ⟨rfl, rfl, hi⟩

theorem concluded_records :
    (e.concluded s r outcome rejection st).2.records.rows =
      st.records.rows ++ st.records.added (e.attempted s r outcome) := by
  have hr := st.records.insertNew_rows (e.attempted s r outcome)
  cases rejection with
  | none => exact hr
  | some x => exact hr

end Concluded

end Errand

variable {around s r} {e : Errand} {w w' : World} {fate : Fate}

theorem conclude_ok {outcome : Delivery.Outcome} {rejection : Option Rejection}
    (h : carryOut around (conclude s r e outcome rejection) w = (.ok fate, w')) :
    fate = .ended (e.concluded s r outcome rejection w.stores).1 ∧
      ∃ n, w' = ⟨(e.concluded s r outcome rejection w.stores).2, n, w.sent⟩ := by
  obtain ⟨isRecorded, v, hi, h⟩ := carryOut_bind_ok around h
  obtain ⟨rfl, rfl⟩ := carryOut_call_ok around (carryOut_store_ok around hi)
  cases rejection with
  | none =>
      cases h
      exact ⟨rfl, _, rfl⟩
  | some x =>
      obtain ⟨disable, v, hd, h⟩ := carryOut_bind_ok around h
      cases h
      obtain ⟨n, u, hn, hd⟩ := carryOut_bind_ok around (carryOut_store_ok around hd)
      cases hd
      obtain ⟨rfl, rfl⟩ := carryOut_call_ok around (carryOut_withScope_ok around hn).2
      exact ⟨rfl, _, rfl⟩

/-- What an errand comes to unless it is withheld: an outcome, a rejection, the ledger after it and
the messages that went out. -/
inductive Errand.Settles (around : Surroundings) (s : Setup) (r : Refresh) (e : Errand)
    (w : World) :
    Delivery.Outcome → Option Rejection → Quota.Ledger → List Sending → Prop
  | settled {outcome} (prospect : e.prospect = .settled outcome) :
      Settles around s r e w outcome none w.stores.ledger []
  | unformatted {fields id failure} (prospect : e.prospect = .toSend fields)
      (allowed : (e.decision s r w).1 = .allowed id)
      (composed : e.composed s fields = .error failure) :
      Settles around s r e w (.failed .articleProcessing failure.message) none
        ((e.decision s r w).2.release id) []
  | exchanged {fields id payloads} (prospect : e.prospect = .toSend fields)
      (allowed : (e.decision s r w).1 = .allowed id)
      (composed : e.composed s fields = .ok payloads) :
      Settles around s r e w (verdict (e.talk around w payloads)).1
        (verdict (e.talk around w payloads)).2 (e.decision s r w).2
        ((e.talk around w payloads).map Prod.fst)

theorem Errand.prospect_filteredOut_iff (e : Errand) :
    e.prospect = .settled .filteredOut ↔
      ∃ fields,
        Message.Derivation.addAll e.article.flattened e.connection.derivations = .ok fields ∧
          (e.lane.screen.judge fields false).passed = false := by
  unfold Errand.prospect
  cases Message.Derivation.addAll e.article.flattened e.connection.derivations with
  | error failure => simp
  | ok fields =>
      cases hp : (e.lane.screen.judge fields false).passed with
      | false => simp [hp]
      | true =>
          have hn : ¬∃ others, (.ok fields : Except Message.Failure Fields) = .ok others ∧
              (e.lane.screen.judge others false).passed = false := by
            rintro ⟨_, ⟨⟩, h⟩
            simp [hp] at h
          refine iff_of_false (fun h => ?_) hn
          cases ht : e.connection.target.isSet <;> simp [hp, ht] at h

theorem Errand.prospect_ne_sent (e : Errand) : e.prospect ≠ .settled .sent := by
  unfold Errand.prospect
  split
  · simp
  · split
    · simp
    · split <;> simp

namespace Errand.Settles

variable {outcome : Delivery.Outcome} {rejection : Option Rejection} {ledger : Quota.Ledger}
  {sent : List Sending}

theorem not_refused (h : e.Settles around s r w outcome rejection ledger sent) :
    ¬e.Refused s r w := by
  rintro ⟨⟨fields, hp⟩, hr⟩
  cases h with
  | settled prospect => simp [hp] at prospect
  | unformatted prospect allowed composed => exact hr _ allowed
  | exchanged prospect allowed composed => exact hr _ allowed

/-- An errand is filtered out exactly when its derived fields are there and its rule does not let
it pass. -/
theorem filteredOut_iff (h : e.Settles around s r w outcome rejection ledger sent) :
    outcome = .filteredOut ↔
      ∃ fields,
        Message.Derivation.addAll e.article.flattened e.connection.derivations = .ok fields ∧
          (e.lane.screen.judge fields false).passed = false := by
  rw [← prospect_filteredOut_iff]
  cases h with
  | settled prospect => simp [prospect]
  | unformatted prospect allowed composed => simp [prospect]
  | exchanged prospect allowed composed => simp [prospect, verdict_ne_filteredOut]

/-- An errand is sent exactly when messages are made of it and every one of them is taken. -/
theorem sent_iff (h : e.Settles around s r w outcome rejection ledger sent) :
    outcome = .sent ↔
      ∃ fields payloads, e.prospect = .toSend fields ∧ e.composed s fields = .ok payloads ∧
        Accepts around.receiver w.sent (payloads.map e.connection.sending) ∧
        sent = payloads.map e.connection.sending := by
  cases h with
  | settled prospect =>
      constructor
      · rintro rfl
        exact absurd prospect e.prospect_ne_sent
      · rintro ⟨fields, payloads, hp, -⟩
        simp [prospect] at hp
  | unformatted prospect allowed composed =>
      constructor
      · intro h
        cases h
      · rintro ⟨fields, payloads, hp, hc, -⟩
        cases prospect.symm.trans hp
        simp [composed] at hc
  | exchanged prospect allowed composed =>
      rw [verdict_eq_sent_iff, Errand.talk, exchange_sent_iff]
      constructor
      · intro h
        refine ⟨_, _, prospect, composed, h, ?_⟩
        exact map_fst_exchange _ _ _ ((exchange_sent_iff ..).mpr h)
      · rintro ⟨fields, payloads, hp, hc, h, -⟩
        cases prospect.symm.trans hp
        cases composed.symm.trans hc
        exact h

end Errand.Settles

/-- A dispatch is broken off while the reservation is given back, or it settles. -/
theorem dispatch_cases {id : Nat} {fields : Fields} {n : Nat}
    (prospect : e.prospect = .toSend fields) (allowed : (e.decision s r w).1 = .allowed id) :
    let v : World := ⟨{ w.stores with ledger := (e.decision s r w).2 }, n, w.sent⟩
    (∃ err ledger n, carryOut around (dispatch s r e id fields) v =
      (.error err, ⟨{ w.stores with ledger }, n, w.sent⟩)) ∨
    ∃ outcome rejection ledger sent n, e.Settles around s r w outcome rejection ledger sent ∧
      carryOut around (dispatch s r e id fields) v =
        carryOut around (conclude s r e outcome rejection)
          ⟨{ w.stores with ledger }, n, w.sent ++ sent⟩ := by
  intro v
  unfold dispatch
  split
  · next failure hc =>
      rw [carryOut_bind, carryOut_store, Store.release, carryOut_call]
      cases around.conditions v.calls .release with
      | some o => exact Or.inl ⟨_, (e.decision s r w).2, n + 1, rfl⟩
      | none =>
          refine Or.inr ⟨_, _, _, _, n + 1, .unformatted prospect allowed hc, ?_⟩
          rw [List.append_nil]
          rfl
  · next payloads hc =>
      rw [carryOut_bind, carryOut_lift, run_sendAll]
      exact Or.inr ⟨_, _, _, _, n, .exchanged prospect allowed hc, rfl⟩

theorem decision_refused (h : ∀ id, (e.decision s r w).1 ≠ .allowed id) :
    (e.decision s r w).2 = w.stores.ledger := by
  unfold Errand.decision at h ⊢
  obtain hd | ⟨d, -, hd⟩ := w.stores.ledger.reserve_cases r.feed.id e.connection.id (limits s r e)
    s.now
  · exact absurd (congrArg Prod.fst hd) (h _)
  · rw [hd]

/-- An errand with something to send is dispatched if the ledger allows it. -/
theorem carryOut_attempt_toSend {fields : Fields} (h : e.prospect = .toSend fields) :
    carryOut around (attempt s r e) w =
      match around.conditions w.calls .reserve with
      | some o =>
        (.error ((Store.Failure.outage o).error "rate limit reservation"),
          { w with calls := w.calls + 1 })
      | none =>
        let v : World := ⟨{ w.stores with ledger := (e.decision s r w).2 }, w.calls + 1, w.sent⟩
        match (e.decision s r w).1 with
        | .allowed id => carryOut around (dispatch s r e id fields) v
        | _ => (.ok .withheld, v) := by
  unfold attempt
  simp only [h]
  rw [carryOut_bind, carryOut_store, Store.reserve, carryOut_call]
  cases around.conditions w.calls .reserve with
  | some o => rfl
  | none =>
      rcases hd : e.decision s r w with ⟨d, ledger⟩
      have hr : w.stores.ledger.reserve r.feed.id e.connection.id (limits s r e) s.now =
          (d, ledger) := hd
      rw [hr]
      cases d <;> rfl

/-- All that an attempt can come to. It is broken off before anything is sent, or it is withheld,
or it settles and is then concluded. -/
theorem attempt_cases (around : Surroundings) (s : Setup) (r : Refresh) (e : Errand) (w : World) :
    (∃ err ledger n, carryOut around (attempt s r e) w =
      (.error err, ⟨{ w.stores with ledger }, n, w.sent⟩)) ∨
    (e.Refused s r w ∧
      ∃ n, carryOut around (attempt s r e) w = (.ok .withheld, { w with calls := n })) ∨
    ∃ outcome rejection ledger sent n, e.Settles around s r w outcome rejection ledger sent ∧
      carryOut around (attempt s r e) w =
        carryOut around (conclude s r e outcome rejection)
          ⟨{ w.stores with ledger }, n, w.sent ++ sent⟩ := by
  cases hp : e.prospect with
  | settled outcome =>
      refine Or.inr (Or.inr ⟨outcome, none, w.stores.ledger, [], w.calls, .settled hp, ?_⟩)
      rw [List.append_nil, attempt, hp]
  | toSend fields =>
      rw [carryOut_attempt_toSend hp]
      cases around.conditions w.calls .reserve with
      | some o => exact Or.inl ⟨_, w.stores.ledger, w.calls + 1, rfl⟩
      | none =>
          by_cases ha : ∃ id, (e.decision s r w).1 = .allowed id
          · obtain ⟨id, hid⟩ := ha
            simp only [hid]
            exact (dispatch_cases hp hid).imp_right Or.inr
          · have hr : ∀ id, (e.decision s r w).1 ≠ .allowed id := fun id h => ha ⟨id, h⟩
            refine Or.inr (Or.inl ⟨⟨⟨fields, hp⟩, hr⟩, w.calls + 1, ?_⟩)
            dsimp only
            rw [decision_refused hr]
            cases hd : (e.decision s r w).1 with
            | allowed id => exact absurd hd (hr id)
            | dayExceeded => rfl
            | limitExceeded id => rfl

/-- What an attempt that is not broken off has come to. -/
theorem attempt_ok (h : carryOut around (attempt s r e) w = (.ok fate, w')) :
    (fate = .withheld ∧ e.Refused s r w ∧ ∃ n, w' = { w with calls := n }) ∨
    ∃ outcome rejection ledger sent, e.Settles around s r w outcome rejection ledger sent ∧
      fate = .ended (e.concluded s r outcome rejection { w.stores with ledger }).1 ∧
      ∃ n, w' = ⟨(e.concluded s r outcome rejection { w.stores with ledger }).2, n,
        w.sent ++ sent⟩ := by
  obtain ⟨err, ledger, n, hc⟩ | ⟨hr, n, hc⟩ | ⟨outcome, rejection, ledger, sent, n, hs, hc⟩ :=
    attempt_cases around s r e w
  · rw [hc] at h
    cases h
  · rw [hc] at h
    cases h
    exact Or.inl ⟨rfl, hr, n, rfl⟩
  · obtain ⟨rfl, hw⟩ := conclude_ok (hc ▸ h)
    exact Or.inr ⟨outcome, rejection, ledger, sent, hs, rfl, hw⟩

section Confined

variable {R : Stores → Stores → Prop} {P : Sending → Prop}

theorem rejectConnection_confined (s : Setup) (feed connection : String)
    (x : Rejection) (hc : ∀ st counters, R st { st with counters }) :
    Confined R P (rejectConnection s feed connection x) :=
  .store _ (.bind (.withScope (.call fun st => hc st _)) fun _ => .pure _)

theorem conclude_confined (s : Setup) (r : Refresh) (e : Errand)
    (outcome : Delivery.Outcome) (rejection : Option Rejection)
    (hr : ∀ st, R st { st with records := (st.records.insertNew (e.attempted s r outcome)).2 })
    (hc : ∀ st counters, R st { st with counters }) :
    Confined R P (conclude s r e outcome rejection) := by
  refine .bind (.store _ (.call hr)) fun isRecorded => ?_
  cases rejection with
  | none => exact .pure _
  | some x => exact .bind (rejectConnection_confined s _ _ x hc) fun _ => .pure _

theorem sendAll_confined (c : Connection) (ps : List Message.Payload)
    (hp : ∀ p, P (c.sending p)) : (sendAll c ps).Confined R P := by
  induction ps with
  | nil => trivial
  | cons p rest ih =>
      refine ⟨hp p, fun answer => ?_⟩
      dsimp only
      split
      · exact ih
      · trivial

/-- An attempt changes the ledger, the counters and the records of its own key, and it sends
messages through its own connection. -/
theorem attempt_confined (s : Setup) (r : Refresh) (e : Errand)
    (hr : ∀ st outcome,
      R st { st with records := (st.records.insertNew (e.attempted s r outcome)).2 })
    (hc : ∀ st counters, R st { st with counters }) (hl : ∀ st ledger, R st { st with ledger })
    (hp : ∀ p, P (e.connection.sending p)) : Confined R P (attempt s r e) := by
  have conclusion (outcome rejection) : Confined R P (conclude s r e outcome rejection) :=
    conclude_confined s r e outcome rejection (fun st => hr st outcome) hc
  unfold attempt
  cases e.prospect with
  | settled outcome => exact conclusion outcome none
  | toSend fields =>
      refine .bind (.store _ (.call fun st => hl st _)) fun decision => ?_
      cases decision with
      | allowed id =>
          change Confined R P (dispatch s r e id fields)
          unfold dispatch
          split
          · exact .bind (.store _ (.call fun st => hl st _)) fun _ => conclusion _ _
          · exact .bind (.lift (sendAll_confined _ _ hp)) fun _ => conclusion _ _
      | dayExceeded => exact .pure _
      | limitExceeded id => exact .pure _

end Confined

section Brittle

variable {K : Store.Kind → Prop} {B : Prop}

theorem conclude_brittle (s : Setup) (r : Refresh) (e : Errand) (outcome : Delivery.Outcome)
    (rejection : Option Rejection) (hi : K .insertRecord) (hc : K .incrementCounter)
    (hb : shows e.connection.id = false → B) :
    Brittle K B (conclude s r e outcome rejection) := by
  refine .bind (.store _ (.call hi _)) fun isRecorded => ?_
  cases rejection with
  | none => exact .pure _
  | some x =>
      refine .bind (.store _ (.bind (.withScope (.call hc _) hb) fun _ => .pure _)) fun _ => ?_
      exact .pure _

/-- An attempt breaks off at a call, or where a connection with a blank identifier is rejected. -/
theorem attempt_brittle (s : Setup) (r : Refresh) (e : Errand)
    (hk : ∀ kind ∈ [.reserve, .release, .insertRecord, .incrementCounter], K kind)
    (hb : shows e.connection.id = false → B) : Brittle K B (attempt s r e) := by
  have conclusion (outcome rejection) : Brittle K B (conclude s r e outcome rejection) :=
    conclude_brittle s r e outcome rejection (hk _ (by simp)) (hk _ (by simp)) hb
  unfold attempt
  cases e.prospect with
  | settled outcome => exact conclusion outcome none
  | toSend fields =>
      refine .bind (.store _ (.call (hk _ (by simp)) _)) fun decision => ?_
      cases decision with
      | allowed id =>
          change Brittle K B (dispatch s r e id fields)
          unfold dispatch
          split
          · exact .bind (.store _ (.call (hk _ (by simp)) _)) fun _ => conclusion _ _
          · refine .bind (.lift fun around w => ?_) fun _ => conclusion _ _
            exact sendAll_unanswered around _ _ w
      | dayExceeded => exact .pure _
      | limitExceeded id => exact .pure _

end Brittle

/-- The errand is taken to its receiver: a message is made of it, and a reservation for it is
allowed. -/
def Errand.Opens (around : Surroundings) (s : Setup) (r : Refresh) (e : Errand) (w : World) :
    Prop :=
  ∃ fields id p ps, e.prospect = .toSend fields ∧ around.conditions w.calls .reserve = none ∧
    (e.decision s r w).1 = .allowed id ∧ e.composed s fields = .ok (p :: ps)

theorem conclude_sent (around : Surroundings) (outcome : Delivery.Outcome)
    (rejection : Option Rejection) (w : World) :
    (carryOut around (conclude s r e outcome rejection) w).2.sent = w.sent := by
  have hc : Silent (Stores.Keeps fun _ => ()) (conclude s r e outcome rejection) :=
    conclude_confined s r e outcome rejection (fun _ => rfl) fun _ _ => rfl
  exact (hc.carryOut around w).2

/-- A dispatch sends what is made of the errand, until a message is not taken. -/
theorem dispatch_sent (around : Surroundings) (id : Nat) (fields : Fields) (w : World) :
    (carryOut around (dispatch s r e id fields) w).2.sent =
      w.sent ++ match e.composed s fields with
        | .ok payloads => (e.talk around w payloads).map Prod.fst
        | .error _ => [] := by
  rw [Errand.composed, dispatch]
  cases Message.compose s.settings.maxLength e.connection.options e.connection.outline fields with
  | error failure =>
      rw [carryOut_bind, carryOut_store, Store.release, carryOut_call, List.append_nil]
      cases around.conditions w.calls .release with
      | some o => rfl
      | none => exact conclude_sent ..
  | ok payloads =>
      dsimp only
      rw [carryOut_bind, carryOut_lift, run_sendAll]
      exact conclude_sent ..

/-- An attempt sends something exactly when the errand is taken to its receiver. -/
theorem attempt_sent_ne_iff (around : Surroundings) (s : Setup) (r : Refresh) (e : Errand)
    (w : World) :
    (carryOut around (attempt s r e) w).2.sent ≠ w.sent ↔ e.Opens around s r w := by
  cases hp : e.prospect with
  | settled outcome =>
      rw [attempt, hp]
      simp [conclude_sent, Errand.Opens, hp]
  | toSend fields =>
      rw [carryOut_attempt_toSend hp]
      cases ho : around.conditions w.calls .reserve with
      | some o => simp [Errand.Opens, ho]
      | none =>
          cases hd : (e.decision s r w).1 with
          | allowed id =>
              dsimp only
              rw [dispatch_sent]
              cases hm : e.composed s fields with
              | error failure => simp [Errand.Opens, hp, hm]
              | ok payloads =>
                  cases payloads <;>
                    simp [Errand.Opens, Errand.talk, exchange, hp, ho, hd, hm]
          | dayExceeded => simp [Errand.Opens, hd]
          | limitExceeded id => simp [Errand.Opens, hd]

end Run

end Newswire
