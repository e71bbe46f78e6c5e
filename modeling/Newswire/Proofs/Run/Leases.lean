import Mathlib.Data.List.Basic
import Newswire.Proofs.Outage

/-!
# Leases and their calls

A lease that is free can be taken and then given back, which leaves no lease on the feed. The calls
about leases change nothing else.
-/

namespace Newswire

namespace Leases

/-- The leases after one on a feed was taken. -/
def taken (ls : Leases) (feed holder : String) (expires : Int) : Leases :=
  ⟨(ls.without feed).rows ++ [⟨feed, holder, expires⟩]⟩

theorem acquireFor_of_free {ls : Leases} {feed holder : String} {now : Instant} {nanos : Nat}
    (h : ls.isFree feed holder now = true) :
    ls.acquireFor feed holder now nanos =
      (true, ls.taken feed holder (expiryAfter now nanos)) :=
  if_pos h

theorem acquireFor_of_not_free {ls : Leases} {feed holder : String} {now : Instant} {nanos : Nat}
    (h : ls.isFree feed holder now = false) :
    ls.acquireFor feed holder now nanos = (false, ls) := if_neg (by simp [h])

/-- Taking a lease tells whether it was free. -/
theorem acquireFor_granted (ls : Leases) (feed holder : String) (now : Instant) (nanos : Nat) :
    (ls.acquireFor feed holder now nanos).1 = ls.isFree feed holder now := by
  unfold acquireFor
  cases ls.isFree feed holder now <;> rfl

theorem acquire_of_free {ls : Leases} {feed holder : String} {now : Instant} {seconds : Nat}
    (h : ls.isFree feed holder now = true) :
    ls.acquire feed holder now seconds = (true, ls.taken feed holder (expiry now seconds)) :=
  acquireFor_of_free h

theorem acquire_of_not_free {ls : Leases} {feed holder : String} {now : Instant} {seconds : Nat}
    (h : ls.isFree feed holder now = false) :
    ls.acquire feed holder now seconds = (false, ls) := acquireFor_of_not_free h

theorem get?_without (ls : Leases) (feed : String) : (ls.without feed).get? feed = none := by
  rw [get?, List.find?_eq_none]
  intro l hl
  simpa [bne] using (List.mem_filter.mp hl).2

theorem isFree_without (ls : Leases) (feed holder : String) (now : Instant) :
    (ls.without feed).isFree feed holder now = true := by
  rw [isFree, get?_without]

theorem without_without (ls : Leases) (feed : String) :
    (ls.without feed).without feed = ls.without feed := by
  simp [without]

theorem get?_taken (ls : Leases) (feed holder : String) (expires : Int) :
    (ls.taken feed holder expires).get? feed = some ⟨feed, holder, expires⟩ := by
  have hn := ls.get?_without feed
  rw [get?] at hn
  simp [taken, get?, List.find?_append, hn]

/-- The holder of a lease that was just taken can give it back. -/
theorem release_taken (ls : Leases) (feed holder : String) (expires : Int) :
    ((ls.taken feed holder expires).release feed holder).2 = ls.without feed := by
  rw [release, get?_taken]
  simp [taken, without, List.filter_append]

section LookUp

variable (ls : Leases) {feed other : String} (holder : String) (now : Instant) (nanos seconds : Nat)

theorem get?_without_of_ne (h : other ≠ feed) : (ls.without feed).get? other = ls.get? other := by
  rw [without, get?, List.find?_filter]
  refine congrArg (List.find? · ls.rows) (funext fun l => ?_)
  by_cases hl : l.feed = other
  · simp [hl, h]
  · simp [hl]

theorem get?_taken_of_ne (expires : Int) (h : other ≠ feed) :
    (ls.taken feed holder expires).get? other = ls.get? other := by
  rw [← ls.get?_without_of_ne h, get?, get?, taken, List.find?_append]
  simp [Ne.symm h]

theorem acquireFor_get? :
    (ls.acquireFor feed holder now nanos).2.get? feed =
      if ls.isFree feed holder now then some ⟨feed, holder, expiryAfter now nanos⟩
      else ls.get? feed := by
  unfold acquireFor
  split
  · exact ls.get?_taken feed holder _
  · rfl

theorem acquireFor_get?_of_ne (h : other ≠ feed) :
    (ls.acquireFor feed holder now nanos).2.get? other = ls.get? other := by
  unfold acquireFor
  split
  · exact ls.get?_taken_of_ne holder _ h
  · rfl

theorem acquire_get? :
    (ls.acquire feed holder now seconds).2.get? feed =
      if ls.isFree feed holder now then some ⟨feed, holder, expiry now seconds⟩
      else ls.get? feed :=
  ls.acquireFor_get? holder now (seconds * 1000000000)

theorem acquire_get?_of_ne (h : other ≠ feed) :
    (ls.acquire feed holder now seconds).2.get? other = ls.get? other :=
  ls.acquireFor_get?_of_ne holder now (seconds * 1000000000) h

theorem release_get? :
    (ls.release feed holder).2.get? feed = (ls.get? feed).filter (·.holder != holder) := by
  unfold release
  cases hl : ls.get? feed with
  | none => exact hl
  | some l =>
      dsimp only
      split
      · next h => simp [get?_without, Option.filter, bne, h]
      · next h => simp [hl, Option.filter, bne, h]

theorem release_get?_of_ne (h : other ≠ feed) :
    (ls.release feed holder).2.get? other = ls.get? other := by
  unfold release
  split
  · split
    · exact ls.get?_without_of_ne h
    · rfl
  · rfl

end LookUp

end Leases

namespace Run

/-- A call about a lease changes nothing but the leases. -/
theorem carryOut_leasing {α : Type} (around : Surroundings) (step : String) (kind : Store.Kind)
    (f : Leases → α × Leases) (w : World) :
    let act := store step
      (Store.call kind fun st => ((f st.leases).1, { st with leases := (f st.leases).2 }))
    ∃ n, (carryOut around act w =
        (.ok (f w.stores.leases).1,
          ⟨{ w.stores with leases := (f w.stores.leases).2 }, n, w.sent⟩) ∧
        unanswered around act w = []) ∨
      (∃ err, carryOut around act w = (.error err, { w with calls := n })) ∧
        unanswered around act w = [kind] := by
  intro act
  refine ⟨w.calls + 1, ?_⟩
  simp only [act]
  rw [carryOut_store, carryOut_call, unanswered_store, unanswered_call]
  cases around.conditions w.calls kind with
  | some o => exact Or.inr ⟨⟨_, rfl⟩, rfl⟩
  | none => exact Or.inl ⟨rfl, rfl⟩

/-- Taking a lease tells whether it was free. -/
theorem carryOut_acquire (around : Surroundings) (step feed holder : String) (now : Instant)
    (seconds : Nat) (w : World) :
    let act := store step (Store.acquireLease feed holder now seconds)
    let free := w.stores.leases.isFree feed holder now
    ∃ n, (free = true ∧ carryOut around act w =
        (.ok true, ⟨{ w.stores with
          leases := w.stores.leases.taken feed holder (Leases.expiry now seconds) }, n, w.sent⟩) ∧
        unanswered around act w = []) ∨
      (free = false ∧ carryOut around act w = (.ok false, { w with calls := n }) ∧
        unanswered around act w = []) ∨
      (∃ err, carryOut around act w = (.error err, { w with calls := n })) ∧
        unanswered around act w = [.acquireLease] := by
  intro act free
  have hc := carryOut_leasing around step .acquireLease (·.acquire feed holder now seconds) w
  dsimp only at hc
  obtain ⟨n, ⟨hc, hu⟩ | hc⟩ := hc
  · cases hf : w.stores.leases.isFree feed holder now with
    | true =>
        rw [Leases.acquire_of_free hf] at hc
        exact ⟨n, Or.inl ⟨hf, hc, hu⟩⟩
    | false =>
        rw [Leases.acquire_of_not_free hf] at hc
        exact ⟨n, Or.inr (Or.inl ⟨hf, hc, hu⟩)⟩
  · exact ⟨n, Or.inr (Or.inr hc)⟩

theorem carryOut_release (around : Surroundings) (step feed holder : String) (w : World) :
    let act := store step (Store.releaseLease feed holder)
    ∃ leases n, (carryOut around act w).2 = ⟨{ w.stores with leases }, n, w.sent⟩ ∧
      (leases = (w.stores.leases.release feed holder).2 ∧ unanswered around act w = [] ∨
        unanswered around act w = [.releaseLease]) := by
  have hc := carryOut_leasing around step .releaseLease (·.release feed holder) w
  dsimp only at hc
  obtain ⟨n, ⟨hc, hu⟩ | ⟨⟨err, hc⟩, hu⟩⟩ := hc
  · exact ⟨_, n, congrArg Prod.snd hc, Or.inl ⟨rfl, hu⟩⟩
  · exact ⟨_, n, congrArg Prod.snd hc, Or.inr hu⟩

end Run

end Newswire
