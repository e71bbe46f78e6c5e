import Mathlib.Data.List.Find
import Newswire.Proofs.Execution
import Newswire.Proofs.Quota.Ledger
import Newswire.Proofs.Quota.Requests
import Newswire.Run.Handling

/-!
# Reservations that are thrown away

Reservations before a moment do not count for what looks back no further than to that moment. To
throw them away first therefore gives the same answers as to throw them away afterwards. What is
kept for at least a day covers the days from then on, and the windows that are no longer than the
time for which it is kept.
-/

namespace Newswire

namespace Quota

/-- The request looks back no further than to `before`. -/
def Request.StaysAfter (before : Instant) : Request → Prop
  | .reserve _ _ limits now => before ≤ dayStart now ∧ ∀ l ∈ limits.connection, before ≤ l.start now
  | .release _ => True
  | .count _ _ since => before ≤ since
  | .remaining _ _ now => before ≤ dayStart now
  | .prune _ => False
  | .purge _ => False

namespace Ledger

variable {g : Ledger} {feed connection : String} {limits : Limits} {before now since : Instant}

theorem countSince_prune (h : before ≤ since) (g : Ledger) (feed : String)
    (through : Option String) :
    (g.prune before).2.countSince feed through since.millis =
      g.countSince feed through since.millis := by
  have hsince := Instant.millis_mono h
  rw [prune, remove, countSince, List.filter_filter]
  refine congrArg List.length (List.filter_congr fun r _ => ?_)
  by_cases hr : since.millis < r.time
  · have hkept : ¬ r.time < before.millis := by omega
    simp [hr, hkept]
  · simp [hr]

theorem prune_enter (h : before ≤ now) (g : Ledger) (feed connection : String) :
    ((g.enter feed connection now.millis).prune before).2 =
      (g.prune before).2.enter feed connection now.millis := by
  simp [prune, remove, enter, Instant.millis_mono h]

theorem exceeded_prune {ls : List RateLimit} (h : ∀ l ∈ ls, before ≤ l.start now) (g : Ledger)
    (feed connection : String) :
    (g.prune before).2.exceeded feed connection now ls = g.exceeded feed connection now ls := by
  rw [exceeded, exceeded]
  refine List.find?_congr fun l hl => ?_
  rw [countSince_prune (h l hl)]

theorem reserve_prune (hday : before ≤ dayStart now)
    (hconnection : ∀ l ∈ limits.connection, before ≤ l.start now) (g : Ledger)
    (feed connection : String) :
    (g.prune before).2.reserve feed connection limits now =
      ((g.reserve feed connection limits now).1,
        ((g.reserve feed connection limits now).2.prune before).2) := by
  have hnow : before ≤ now := Int.le_trans hday (Int.le_of_lt (dayStart_lt now))
  rw [reserve, reserve, ← prune_enter hnow, countSince_prune hday, exceeded_prune hconnection]
  split
  · rfl
  · cases (g.enter feed connection now.millis).exceeded feed connection now limits.connection <;> rfl

theorem release_prune (g : Ledger) (before : Instant) (id : Int) :
    (g.prune before).2.release id = ((g.release id).prune before).2 := by
  simp only [release, prune, remove, List.filter_filter, Bool.and_comm]

/-- Thrown away before or after it, what a request does not look back on makes no difference to
it. -/
theorem answer_prune {q : Request} (h : q.StaysAfter before) (g : Ledger) :
    (g.prune before).2.answer q = ((g.answer q).1, ((g.answer q).2.prune before).2) := by
  cases q with
  | reserve feed connection limits now =>
      rw [answer, answer, reserve_prune h.1 h.2]
  | release id => exact congrArg _ (release_prune ..)
  | count feed through since =>
      rw [answer, answer, countSince_prune h]
  | remaining feed daily now =>
      rw [answer, answer, countSince_prune h]
  | prune before => exact h.elim
  | purge feed => exact h.elim

theorem answers_prune {qs : List Request} (h : ∀ q ∈ qs, q.StaysAfter before) (g : Ledger) :
    answers answer (g.prune before).2 qs = answers answer g qs := by
  induction qs generalizing g with
  | nil => rfl
  | cons q rest ih =>
      rw [answers, answers, answer_prune (h q (List.mem_cons_self ..))]
      exact congrArg _ (ih (fun p hp => h p (List.mem_cons_of_mem _ hp)) _)

end Ledger

end Quota

/-- Settings that make sense keep reservations for a day at least. -/
theorem Settings.daySeconds_le_retention {s : Settings} (h : s.check = .ok ()) :
    RateLimit.daySeconds ≤ s.delivery.retention := by
  by_contra hday
  have hfault : s.fault? ≠ none := by
    simp only [fault?]
    split_ifs <;> simp_all [RateLimit.daySeconds]
  cases hs : s.fault? with
  | none => exact hfault hs
  | some cause =>
      rw [check, hs] at h
      cases h

namespace Run

open Quota

/-- The reservation is made from a moment on, and no window of its limits is longer than the
seconds. -/
def IsWithin (seconds : Nat) (now : Instant) (q : Request) : Prop :=
  ∃ feed connection limits t, q = .reserve feed connection limits t ∧ now ≤ t ∧
    ∀ l ∈ limits.connection, l.seconds ≤ seconds

section Kept

variable {seconds : Nat} {now t : Instant}

theorem le_dayStart (hday : RateLimit.daySeconds ≤ seconds) (ht : now ≤ t) :
    now.ago (seconds * 1000) ≤ dayStart t :=
  Instant.ago_le_ago ht (Nat.mul_le_mul_right 1000 hday)

theorem le_start {l : RateLimit} (hl : l.seconds ≤ seconds) (ht : now ≤ t) :
    now.ago (seconds * 1000) ≤ l.start t :=
  Int.le_trans (Instant.ago_le_ago ht (Nat.mul_le_mul_right 1000 hl)) (l.ago_le_start t)

theorem IsWithin.staysAfter {q : Request} (h : IsWithin seconds now q)
    (hday : RateLimit.daySeconds ≤ seconds) : q.StaysAfter (now.ago (seconds * 1000)) := by
  obtain ⟨feed, connection, limits, t, rfl, ht, hlimits⟩ := h
  exact ⟨le_dayStart hday ht, fun l hl => le_start (hlimits l hl) ht⟩

end Kept

theorem carryOut_prune (around : Surroundings) {seconds : Nat} {now : Instant} {w : World}
    (hkeep : seconds * 1000 ≤ longestKeep) (hnow : RateLimit.firstMoment ≤ now.ago (seconds * 1000))
    (hcall : around.conditions w.calls .pruneReservations = none) :
    carryOut around (prune now seconds) w =
      (.ok (some (w.stores.ledger.prune (now.ago (seconds * 1000))).1),
        { w with
          stores :=
            { w.stores with ledger := (w.stores.ledger.prune (now.ago (seconds * 1000))).2 }
          calls := w.calls + 1 }) := by
  rw [prune, keep, if_pos hkeep]
  dsimp only
  rw [if_neg (Instant.not_lt.mpr hnow), carryOut_map, carryOut_store, Store.pruneReservations,
    carryOut_call, hcall]
  rfl

/-- With settings that make sense and that keep reservations for a time that can be told, those that
are older are thrown away and nothing else is changed. None of them counts any more, neither for a
day nor for a window that is no longer than that time. From then on, reservations under limits of
such windows are answered as if nothing had been thrown away. -/
theorem prune_unnoticed (around : Surroundings) {settings : Settings} {now : Instant} {w : World}
    (hsettings : settings.check = .ok ())
    (hkeep : settings.delivery.retention * 1000 ≤ longestKeep)
    (hnow : RateLimit.firstMoment ≤ now.ago (settings.delivery.retention * 1000))
    (hcall : around.conditions w.calls .pruneReservations = none) :
    ∃ ledger : Ledger,
      carryOut around (prune now settings.delivery.retention) w =
        (.ok (some (w.stores.ledger.rows.length - ledger.rows.length)),
          { w with stores := { w.stores with ledger }, calls := w.calls + 1 }) ∧
      ledger.rows.Sublist w.stores.ledger.rows ∧
      (∀ r ∈ w.stores.ledger.rows, r ∉ ledger.rows → ∀ t, now ≤ t →
        r.time ≤ (dayStart t).millis ∧ ∀ l : RateLimit,
          l.seconds ≤ settings.delivery.retention → r.time ≤ (l.start t).millis) ∧
      ∀ qs : List Request, (∀ q ∈ qs, IsWithin settings.delivery.retention now q) →
        answers Ledger.answer ledger qs = answers Ledger.answer w.stores.ledger qs := by
  have hday := Settings.daySeconds_le_retention hsettings
  let before := now.ago (settings.delivery.retention * 1000)
  refine ⟨(w.stores.ledger.prune before).2, ?_, List.filter_sublist, ?_, ?_⟩
  · have hsplit := List.length_eq_length_filter_add (l := w.stores.ledger.rows)
      fun r => decide (r.time < before.millis)
    rw [carryOut_prune around hkeep hnow hcall]
    refine congrArg (fun n => (Except.ok (some n), _)) (Nat.eq_sub_of_add_eq hsplit.symm)
  · intro r hr hgone t ht
    have hold : r.time < before.millis := by
      by_contra hkept
      exact hgone (List.mem_filter.mpr ⟨hr, by simpa using hkept⟩)
    constructor
    · exact Int.le_trans (Int.le_of_lt hold) (Instant.millis_mono (le_dayStart hday ht))
    · exact fun l hl => Int.le_trans (Int.le_of_lt hold) (Instant.millis_mono (le_start hl ht))
  · exact fun qs hqs => Ledger.answers_prune (fun q hq => (hqs q hq).staysAfter hday) _

/-- Two reservations, of which one is a month and a day old after a month and a day. -/
def twoReserved : World :=
  let limits : Limits := { daily := 100 }
  let ledger := afterwards Ledger.answer {}
    [.reserve "f" "c" limits (.ofMillis 0), .reserve "f" "c" limits (.ofMillis 172800000)]
  { stores := { ledger } }

/-- A month and a day after the first moment. -/
def monthLater : Instant := .ofMillis 2678400000

/-- A reservation a month and a day after the first moment, under a limit. -/
def underLimit (window limit : Nat) : List Request :=
  [.reserve "f" "c" { daily := 100, connection := [{ id := "w", window, limit }] } monthLater]

theorem prune_unnoticed_twoReserved :
    (carryOut {} (prune monthLater 2592000) twoReserved).2.stores.ledger.rows =
        [⟨2, "f", "c", 172800000⟩] ∧
      answers Ledger.answer (carryOut {} (prune monthLater 2592000) twoReserved).2.stores.ledger
          (underLimit 2592000 1) =
        answers Ledger.answer twoReserved.stores.ledger (underLimit 2592000 1) := by
  obtain ⟨ledger, hprune, -, -, hanswers⟩ :=
    @prune_unnoticed {} {} monthLater twoReserved rfl (by decide) (by decide) rfl
  have hledger : (carryOut {} (prune monthLater 2592000) twoReserved).2.stores.ledger = ledger :=
    congrArg (fun r => r.2.stores.ledger) hprune
  refine ⟨rfl, hledger ▸ hanswers (underLimit 2592000 1) fun q hq => ?_⟩
  obtain rfl := List.mem_singleton.mp hq
  exact ⟨"f", "c", _, monthLater, rfl, Int.le_refl _, by decide⟩

/-- A window of two months still counts what is kept for a month. -/
theorem prune_noticed :
    ({} : Settings).check = .ok () ∧
      (carryOut {} (prune monthLater ({} : Settings).delivery.retention) twoReserved).1 =
        .ok (some 1) ∧
      answers Ledger.answer twoReserved.stores.ledger (underLimit 5184000 2) =
        [.decision (.limitExceeded "w")] ∧
      answers Ledger.answer
          (carryOut {} (prune monthLater ({} : Settings).delivery.retention)
            twoReserved).2.stores.ledger
          (underLimit 5184000 2) =
        [.decision (.allowed 3)] :=
  ⟨rfl, rfl, by decide, by decide⟩

end Run

end Newswire
