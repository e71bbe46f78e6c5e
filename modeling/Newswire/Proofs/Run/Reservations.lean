import Newswire.Proofs.Message.Composing
import Newswire.Proofs.Quota.Ledger
import Newswire.Proofs.Run.Histories

/-!
# Reservations of runs

An errand that is taken to its receiver leaves a reservation, and no other errand does, unless one
cannot be given back. The deliveries of a feed therefore keep to its limit on every day, through all
events but one that deletes the feed.
-/

namespace Newswire

open Quota (Ledger)

namespace Run

variable {around : Surroundings} {s : Setup} {r : Refresh} {recorded : List (String × String)}

/-- Concluding an errand leaves the ledger as it is. -/
theorem conclude_ledger (around : Surroundings) (e : Errand) (outcome : Delivery.Outcome)
    (rejection : Option Rejection) (w : World) :
    (carryOut around (conclude s r e outcome rejection) w).2.stores.ledger = w.stores.ledger := by
  have hc : Silent (Stores.Keeps Stores.ledger) (conclude s r e outcome rejection) :=
    conclude_confined s r e outcome rejection (fun _ => rfl) fun _ _ => rfl
  exact (hc.carryOut around w).1.symm

/-- A dispatch keeps its reservation, or gives it back where there is nothing to send. -/
theorem dispatch_ledger (around : Surroundings) (s : Setup) (r : Refresh) (e : Errand) (id : Nat)
    (fields : Fields) (w : World) :
    let w' := (carryOut around (dispatch s r e id fields) w).2
    (w'.sent ≠ w.sent ∧ w'.stores.ledger = w.stores.ledger) ∨
      w'.sent = w.sent ∧ (w'.stores.ledger = w.stores.ledger.release id ∨
        w'.stores.ledger = w.stores.ledger ∧
          .release ∈ unanswered around (dispatch s r e id fields) w) := by
  intro w'
  have hsent : w'.sent = _ := dispatch_sent around id fields w
  rw [hsent, Errand.composed]
  simp only [w']
  rw [dispatch]
  cases hc : Message.compose s.settings.maxLength e.connection.options e.connection.outline
    fields with
  | ok payloads =>
      dsimp only
      rw [carryOut_bind, carryOut_lift, run_sendAll]
      refine Or.inl ⟨?_, conclude_ledger ..⟩
      cases payloads with
      | nil => exact absurd rfl (Message.compose_ne_nil hc)
      | cons p ps => simp [Errand.talk, exchange]
  | error failure =>
      dsimp only
      rw [carryOut_bind, carryOut_store, unanswered_bind, unanswered_store, carryOut_store,
        Store.release, carryOut_call, unanswered_call]
      refine Or.inr ⟨by simp, ?_⟩
      cases around.conditions w.calls .release with
      | some o => exact Or.inr ⟨rfl, by simp⟩
      | none => exact Or.inl (conclude_ledger ..)

theorem unanswered_attempt_allowed {e : Errand} {w : World} {fields : Fields} {id : Nat}
    (hp : e.prospect = .toSend fields) (hr : around.conditions w.calls .reserve = none)
    (hd : (e.decision s r w).1 = .allowed id) :
    unanswered around (attempt s r e) w =
      unanswered around (dispatch s r e id fields)
        ⟨{ w.stores with ledger := (e.decision s r w).2 }, w.calls + 1, w.sent⟩ := by
  unfold attempt
  simp only [hp]
  rw [unanswered_bind, unanswered_store, carryOut_store, Store.reserve, unanswered_call,
    carryOut_call, if_pos hr, hr]
  rcases hl : e.decision s r w with ⟨d, ledger⟩
  rw [hl] at hd
  obtain rfl : d = .allowed id := hd
  have hreserve : w.stores.ledger.reserve r.feed.id e.connection.id (limits s r e) s.now =
      (.allowed id, ledger) := hl
  rw [hreserve]
  rfl

/-- What an attempt leaves in the ledger. Its reservation stays entered if something was sent, and
else only where it cannot be given back. -/
theorem attempt_ledger (around : Surroundings) (s : Setup) (r : Refresh) (e : Errand)
    (w : World) :
    let w' := (carryOut around (attempt s r e) w).2
    let g := w.stores.ledger
    let entered := g.enter r.feed.id e.connection.id s.now.millis
    (w'.sent = w.sent ∧
      (w'.stores.ledger = g ∨ w'.stores.ledger = entered.release (g.last + 1 : Nat))) ∨
    w'.stores.ledger = entered ∧
      entered.countSince r.feed.id none (Quota.dayStart s.now).millis ≤ (limits s r e).daily ∧
      (w'.sent ≠ w.sent ∨ .release ∈ unanswered around (attempt s r e) w) := by
  intro w' g entered
  simp only [w']
  cases hp : e.prospect with
  | settled outcome =>
      rw [attempt, hp]
      exact Or.inl ⟨conclude_sent .., Or.inl (conclude_ledger ..)⟩
  | toSend fields =>
      by_cases hr : around.conditions w.calls .reserve = none
      · cases hd : (e.decision s r w).1 with
        | allowed id =>
            obtain ⟨rfl, hledger, hroom⟩ := Ledger.countSince_of_allowed hd
            have hledger : (e.decision s r w).2 = entered := hledger
            rw [unanswered_attempt_allowed hp hr hd, carryOut_attempt_toSend hp, hr]
            dsimp only
            rw [hd, hledger]
            obtain ⟨hs, hl⟩ | ⟨hs, hl | ⟨hl, hf⟩⟩ := dispatch_ledger around s r e (g.last + 1)
              fields ⟨{ w.stores with ledger := entered }, w.calls + 1, w.sent⟩
            · exact Or.inr ⟨hl, hroom, Or.inl hs⟩
            · exact Or.inl ⟨hs, Or.inr hl⟩
            · exact Or.inr ⟨hl, hroom, Or.inr hf⟩
        | _ =>
            rw [carryOut_attempt_toSend hp, hr]
            dsimp only
            rw [hd]
            exact Or.inl ⟨rfl, Or.inl (decision_refused (by simp [hd]))⟩
      · obtain ⟨o, ho⟩ := Option.ne_none_iff_exists'.mp hr
        rw [carryOut_attempt_toSend hp, ho]
        exact Or.inl ⟨rfl, Or.inl rfl⟩

/-- Something was sent in the visit. -/
def Visit.isDispatched (v : Visit) : Bool := !v.sent.isEmpty

/-- When the deliveries of a feed were made that some visits of a run came to. -/
def deliveries (feed : String) (s : Setup) (r : Refresh) (vs : List Visit) :
    List Instant :=
  if r.feed.id = feed then (vs.filter Visit.isDispatched).map fun _ => s.now else []

theorem deliveries_cons (feed : String) (s : Setup) (r : Refresh) (v : Visit) (vs : List Visit) :
    deliveries feed s r (v :: vs) = deliveries feed s r [v] ++ deliveries feed s r vs := by
  unfold deliveries
  split
  · rw [← List.map_append, ← List.filter_append, List.singleton_append]
  · rfl

namespace Visit.IsOf

variable {v : Visit}

theorem ledger_cases (h : v.IsOf around s r recorded) :
    let g := v.before.stores.ledger
    let entered := g.enter r.feed.id v.errand.connection.id s.now.millis
    (v.isDispatched = false ∧ (v.after.stores.ledger = g ∨
      v.after.stores.ledger = entered.release (g.last + 1 : Nat))) ∨
    v.after.stores.ledger = entered ∧
      entered.countSince r.feed.id none (Quota.dayStart s.now).millis ≤
        r.feed.dailyLimit.getD s.settings.dailyLimit ∧
      (v.isDispatched = true ∨
        .release ∈ unanswered around (visit s r recorded v.rejected v.errand) v.before) := by
  intro g entered
  have untouched (hw : v.after = v.before) :
      v.isDispatched = false ∧ v.after.stores.ledger = g := by
    rw [isDispatched, Visit.sent, hw, List.drop_length]
    exact ⟨rfl, rfl⟩
  by_cases hr : v.errand.connection.id ∈ v.rejected
  · exact Or.inl ((untouched (h.suppressed hr).2).imp_right Or.inl)
  by_cases hk : v.errand.key ∈ recorded
  · exact Or.inl ((untouched (h.skipped hr hk).2).imp_right Or.inl)
  have hvisit : visit s r recorded v.rejected v.errand = attempt s r v.errand := by
    rw [visit, if_neg (by simpa using hr), if_neg (by simpa using hk)]
  have hsent : v.after.sent = v.before.sent ↔ v.isDispatched = false := by
    rw [h.sent_eq, isDispatched]
    simp
  have hl := attempt_ledger around s r v.errand v.before
  dsimp only at hl
  rw [h.attempted hr hk] at hl
  rw [hvisit]
  obtain ⟨hs, hl⟩ | ⟨hl, hroom, hs⟩ := hl
  · exact Or.inl ⟨hsent.mp hs, hl⟩
  · refine Or.inr ⟨hl, hroom, hs.imp_left fun hne => ?_⟩
    by_contra hn
    exact hne (hsent.mpr (by simpa using hn))

theorem numbered (h : v.IsOf around s r recorded) (hn : v.before.stores.ledger.Numbered) :
    v.after.stores.ledger.Numbered := by
  obtain ⟨-, hl | hl⟩ | ⟨hl, -⟩ := h.ledger_cases
  · rw [hl]
    exact hn
  · rw [hl]
    exact (hn.enter _ _ _).filter _
  · rw [hl]
    exact hn.enter _ _ _

/-- A visit in which a reservation can be given back enters one exactly when it sends. -/
theorem reserved (h : v.IsOf around s r recorded) (hn : v.before.stores.ledger.Numbered)
    (hr : .release ∉ unanswered around (visit s r recorded v.rejected v.errand) v.before) :
    ∃ new : List Quota.Reservation,
      v.after.stores.ledger.rows = v.before.stores.ledger.rows ++ new ∧
      new.map (fun x => (x.feed, x.connection, x.time)) =
        if v.isDispatched then [(r.feed.id, v.errand.connection.id, s.now.millis)] else [] := by
  obtain ⟨hd, hl | hl⟩ | ⟨hl, -, hd⟩ := h.ledger_cases
  · rw [hl, hd]
    exact ⟨[], by simp⟩
  · rw [hl, hn.release_enter, hd]
    exact ⟨[], by simp⟩
  · rw [hl, if_pos (hd.resolve_right hr)]
    exact ⟨_, rfl, rfl⟩

theorem covers {feed : String} {daily : Nat} {times : List Instant}
    (h : v.IsOf around s r recorded) (hc : v.before.stores.ledger.Covers feed daily times)
    (hlimit : r.feed.id = feed → r.feed.dailyLimit.getD s.settings.dailyLimit ≤ daily) :
    v.after.stores.ledger.Covers feed daily (times ++ deliveries feed s r [v]) := by
  have idle (hd : v.isDispatched = false) : deliveries feed s r [v] = [] := by
    simp [deliveries, hd]
  obtain ⟨hd, hl | hl⟩ | ⟨hl, hroom, -⟩ := h.ledger_cases
  · rw [hl, idle hd, List.append_nil]
    exact hc
  · rw [hl, idle hd, List.append_nil]
    exact hc.release_enter ..
  · rw [hl]
    by_cases hf : r.feed.id = feed ∧ v.isDispatched = true
    · obtain ⟨rfl, hd⟩ := hf
      have htimes : deliveries r.feed.id s r [v] = [s.now] := by simp [deliveries, hd]
      rw [htimes]
      exact hc.allowed _ (hroom.trans (hlimit rfl))
    · have htimes : deliveries feed s r [v] = [] := by
        rw [deliveries]
        split
        · next hfeed =>
            have hd : v.isDispatched = false := by simpa [hfeed] using hf
            simp [hd]
        · rfl
      rw [htimes, List.append_nil]
      exact hc.enter ..

end Visit.IsOf

namespace Linked

variable {rejected : List String} {w w' : World} {vs : List Visit}

theorem numbered (h : Linked around s r recorded rejected w vs w')
    (hn : w.stores.ledger.Numbered) : w'.stores.ledger.Numbered := by
  induction h with
  | nil => exact hn
  | cons visit last others ih => exact ih (visit.numbered hn)

theorem reserved (h : Linked around s r recorded rejected w vs w')
    (hn : w.stores.ledger.Numbered)
    (hr : ∀ v ∈ vs, .release ∉
      unanswered around (visit s r recorded v.rejected v.errand) v.before) :
    ∃ new : List Quota.Reservation, w'.stores.ledger.rows = w.stores.ledger.rows ++ new ∧
      new.map (fun x => (x.feed, x.connection, x.time)) =
        (vs.filter Visit.isDispatched).map fun v =>
          (r.feed.id, v.errand.connection.id, s.now.millis) := by
  induction h with
  | nil => exact ⟨[], by simp⟩
  | @cons v rest w' visit last others ih =>
      obtain ⟨new, hrows, hnew⟩ := visit.reserved hn (hr v (List.mem_cons_self ..))
      obtain ⟨newer, hrows', hnewer⟩ := ih (visit.numbered hn) fun u hu =>
        hr u (List.mem_cons_of_mem _ hu)
      refine ⟨new ++ newer, by rw [hrows', hrows, List.append_assoc], ?_⟩
      rw [List.map_append, hnew, hnewer, List.filter_cons]
      split <;> rfl

theorem covers {feed : String} {daily : Nat} {times : List Instant}
    (h : Linked around s r recorded rejected w vs w')
    (hc : w.stores.ledger.Covers feed daily times)
    (hlimit : r.feed.id = feed → r.feed.dailyLimit.getD s.settings.dailyLimit ≤ daily) :
    w'.stores.ledger.Covers feed daily (times ++ deliveries feed s r vs) := by
  induction h generalizing times with
  | nil => simpa [deliveries] using hc
  | @cons v rest w' visit last others ih =>
      rw [deliveries_cons, ← List.append_assoc]
      exact ih (visit.covers hc hlimit)

end Linked

end Run

end Newswire
