import Newswire.Proofs.Run.Counting
import Newswire.Proofs.Run.Reservations

/-!
# Footprints

What a visit can leave in the stores, wherever it is broken off: records of its own key, a rejection
of its own connection, and a reservation of its own. What the stores say about other connections and
other feeds is not affected.
-/

namespace Newswire.Run

variable {around : Surroundings} {s : Setup} {r : Refresh} {recorded : List (String × String)}

/-- All that a visit to an errand can have changed. -/
structure Errand.Footprint (s : Setup) (r : Refresh) (e : Errand) (st tt : Stores) : Prop where
  fingerprints : tt.fingerprints = st.fingerprints
  leases : tt.leases = st.leases
  records : ∃ new, tt.records.rows = st.records.rows ++ new ∧
    ∀ x ∈ new, ∃ outcome, x.attempt = e.attempted s r outcome
  counters : ∃ rejection, tt.counters = e.counted s r rejection st.counters
  ledger : tt.ledger = st.ledger ∨
    tt.ledger = st.ledger.enter r.feed.id e.connection.id s.now.millis ∨
    tt.ledger =
      (st.ledger.enter r.feed.id e.connection.id s.now.millis).release (st.ledger.last + 1 : Nat)

theorem Visit.IsOf.footprint {v : Visit} (h : v.IsOf around s r recorded) :
    v.errand.Footprint s r v.before.stores v.after.stores := by
  have hc : Confined (Stores.Keeps fun st => (st.fingerprints, st.leases)) (fun _ => True)
      (visit s r recorded v.rejected v.errand) :=
    visit_confined (fun _ _ => rfl) (fun _ _ => rfl) (fun _ _ => rfl) fun _ => trivial
  obtain ⟨hkept, -⟩ := hc.carryOut around v.before
  rw [h] at hkept
  constructor
  · exact (congrArg Prod.fst hkept).symm
  · exact (congrArg Prod.snd hkept).symm
  · exact ⟨v.added, h.added_eq⟩
  · exact ⟨v.rejection?, h.counters⟩
  · obtain ⟨-, hl | hl⟩ | ⟨hl, -⟩ := h.ledger_cases
    · exact Or.inl hl
    · exact Or.inr (Or.inr hl)
    · exact Or.inr (Or.inl hl)

namespace Errand.Footprint

variable {e : Errand} {st tt : Stores}

theorem numbered (h : e.Footprint s r st tt) (hn : st.ledger.Numbered) : tt.ledger.Numbered := by
  obtain hl | hl | hl := h.ledger <;> rw [hl]
  · exact hn
  · exact hn.enter _ _ _
  · exact (hn.enter _ _ _).filter _

/-- A visit adds at most its own reservation to a count. -/
theorem countSince (h : e.Footprint s r st tt) (hn : st.ledger.Numbered) (feed : String)
    (through : Option String) (since : Int) :
    tt.ledger.countSince feed through since = st.ledger.countSince feed through since ∨
      r.feed.id = feed ∧ through.all (e.connection.id == ·) = true ∧
        tt.ledger.countSince feed through since =
          st.ledger.countSince feed through since + 1 := by
  obtain hl | hl | hl := h.ledger <;> rw [hl]
  · exact Or.inl rfl
  · rw [Quota.Ledger.countSince_enter]
    split
    · next hown => exact Or.inr ⟨hown.1, hown.2.1, rfl⟩
    · exact Or.inl rfl
  · exact Or.inl (hn.countSince_release_enter ..)

/-- The records that `test` passes are the same if it passes no record of the errand. -/
theorem filter_records (h : e.Footprint s r st tt) {test : Delivery.Record → Bool}
    (ht : ∀ x outcome, x.attempt = e.attempted s r outcome → test x = false) :
    tt.records.rows.filter test = st.records.rows.filter test := by
  obtain ⟨new, hrows, hnew⟩ := h.records
  have hnone : new.filter test = [] := by
    apply List.filter_eq_nil_iff.mpr
    intro x hx
    obtain ⟨outcome, ho⟩ := hnew x hx
    simp [ht x outcome ho]
  rw [hrows, List.filter_append, hnone, List.append_nil]

theorem get?_of_ne (h : e.Footprint s r st tt) {feed : String} {scope : Scope}
    (hne : feed = r.feed.id → scope ≠ .connection e.connection.id) :
    tt.counters.get? feed scope = st.counters.get? feed scope := by
  obtain ⟨rejection, hc⟩ := h.counters
  rw [hc]
  exact e.counted_get?_of_ne s r (fun _ _ => hne) _

end Errand.Footprint

end Newswire.Run
