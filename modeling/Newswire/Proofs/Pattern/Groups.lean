import Mathlib.Data.List.Basic
import Newswire.Pattern.Basic

/-!
# The groups of a match

A match has two places for each group of its pattern and for itself, and no more, from the first
thread on to the last. So a group that the pattern has not is empty in every match.
-/

namespace Newswire.Pattern

/-- The threads have that many places. -/
def Crowd.HasSlots (crowd : Crowd) (n : Nat) : Prop := ∀ t ∈ crowd.waiting, t.slots.size = n

section Machine

variable {p : Program} {text : Array Char} {n : Nat}

theorem hasSlots_fresh : (Crowd.fresh p).HasSlots n := by simp [Crowd.HasSlots, Crowd.fresh]

theorem hasSlots_settle {i fuel : Nat} {stack : List Thread} {crowd : Crowd}
    (hstack : ∀ t ∈ stack, t.slots.size = n) (hcrowd : crowd.HasSlots n) :
    (settle p text i fuel stack crowd).HasSlots n := by
  fun_induction settle p text i fuel stack crowd with
  | case1 => exact hcrowd
  | case2 => exact hcrowd
  | case3 _ t rest _ _ ih => exact ih (List.forall_mem_cons.mp hstack).2 hcrowd
  | case4 _ t rest _ _ _ _ ih => exact ih (List.forall_mem_cons.mp hstack).2 hcrowd
  | case5 _ t rest _ _ _ a b _ ih =>
      obtain ⟨ht, hrest⟩ := List.forall_mem_cons.mp hstack
      exact ih (List.forall_mem_cons.mpr ⟨ht, List.forall_mem_cons.mpr ⟨ht, hrest⟩⟩) hcrowd
  | case6 _ t rest _ _ _ slot next _ ih =>
      obtain ⟨ht, hrest⟩ := List.forall_mem_cons.mp hstack
      exact ih (List.forall_mem_cons.mpr ⟨by simpa using ht, hrest⟩) hcrowd
  | case7 _ t rest _ _ _ place next _ _ ih =>
      obtain ⟨ht, hrest⟩ := List.forall_mem_cons.mp hstack
      exact ih (List.forall_mem_cons.mpr ⟨ht, hrest⟩) hcrowd
  | case8 _ t rest _ _ _ place next _ _ ih => exact ih (List.forall_mem_cons.mp hstack).2 hcrowd
  | case9 _ t rest _ _ _ _ _ _ _ _ ih =>
      obtain ⟨ht, hrest⟩ := List.forall_mem_cons.mp hstack
      refine ih hrest fun t' ht' => ?_
      rcases Array.mem_push.mp ht' with ht' | rfl
      · exact hcrowd t' ht'
      · exact ht

theorem hasSlots_enter {i : Nat} {t : Thread} {crowd : Crowd} (ht : t.slots.size = n)
    (hcrowd : crowd.HasSlots n) : (enter p text i t crowd).HasSlots n :=
  hasSlots_settle (List.forall_mem_singleton.mpr ht) hcrowd

theorem hasSlots_advance {i : Nat} {threads : List Thread} {next : Crowd}
    (hthreads : ∀ t ∈ threads, t.slots.size = n) (hnext : next.HasSlots n) :
    (advance p text i threads next).1.HasSlots n ∧
      ∀ slots ∈ (advance p text i threads next).2, slots.size = n := by
  fun_induction advance p text i threads next with
  | case1 => exact ⟨hnext, by simp⟩
  | case2 next t rest _ => exact ⟨hnext, by simpa using (List.forall_mem_cons.mp hthreads).1⟩
  | case3 next t rest s target _ _ ih =>
      obtain ⟨ht, hrest⟩ := List.forall_mem_cons.mp hthreads
      exact ih hrest (hasSlots_enter ht hnext)
  | case4 next t rest s target _ _ ih => exact ih (List.forall_mem_cons.mp hthreads).2 hnext
  | case5 next t rest _ _ ih => exact ih (List.forall_mem_cons.mp hthreads).2 hnext

theorem size_of_mem_search {start steps i : Nat} {crowd : Crowd} {found : Option Slots}
    (hcrowd : crowd.HasSlots n) (hfound : ∀ slots ∈ found, slots.size = n) :
    ∀ slots ∈ search p start n text steps i crowd found, slots.size = n := by
  induction steps generalizing i crowd found with
  | zero => exact hfound
  | succ steps ih =>
      have hentered : (if found.isNone then
          enter p text i ⟨start, Array.replicate n none⟩ crowd else crowd).HasSlots n := by
        split
        · exact hasSlots_enter (by simp) hcrowd
        · exact hcrowd
      rw [search]
      generalize (if found.isNone then _ else _ : Crowd) = entered at hentered
      dsimp only
      split
      · exact hfound
      · have hthreads : ∀ t ∈ entered.waiting.toList, t.slots.size = n :=
          fun t ht => hentered t (Array.mem_toList_iff.mp ht)
        obtain ⟨hnext, hhit⟩ :
            (advance p text i entered.waiting.toList (.fresh p)).1.HasSlots n ∧
              ∀ slots ∈ (advance p text i entered.waiting.toList (.fresh p)).2,
                slots.size = n := hasSlots_advance hthreads hasSlots_fresh
        refine ih hnext fun slots hslots => ?_
        rcases Option.or_eq_some_iff.mp hslots with hslots | ⟨-, hslots⟩
        · exact hhit slots hslots
        · exact hfound slots hslots

end Machine

section Matches

variable {p : Pattern} {text : Array Char} {m : Match}

theorem size_of_findFrom {i : Nat} (h : p.findFrom text i = some m) :
    m.slots.size = 2 * (p.captures + 1) := by
  unfold findFrom at h
  split at h
  · cases h
  · obtain ⟨slots, hslots, rfl⟩ := Option.map_eq_some_iff.mp h
    exact size_of_mem_search hasSlots_fresh (by simp) slots hslots

theorem size_of_mem_matchesFrom {count i : Nat} {last : Option Nat}
    (h : m ∈ p.matchesFrom text count i last) : m.slots.size = 2 * (p.captures + 1) := by
  fun_induction matchesFrom p text count i last with
  | case1 => cases h
  | case2 => cases h
  | case3 count i last found m' hfound ih =>
      have hsize : m'.slots.size = 2 * (p.captures + 1) := by
        dsimp only [found] at hfound
        split at hfound
        · cases hfound
        · next first hfirst =>
          split at hfound
          · exact size_of_findFrom hfound
          · exact size_of_findFrom (hfirst.trans hfound)
      rcases List.mem_cons.mp h with rfl | h
      · exact hsize
      · exact ih h

/-- A match has two places for itself and two for each group. -/
theorem size_of_mem_findAll {everywhere : Bool} (h : m ∈ p.findAll everywhere text) :
    m.slots.size = 2 * (p.captures + 1) :=
  size_of_mem_matchesFrom h

/-- A group that the pattern has not is empty. -/
theorem Match.group_eq_nil {n k : Nat} (hsize : m.slots.size = 2 * (n + 1)) (hk : n < k) :
    m.group text k = [] := by
  have hbound : m.bound (2 * k) = none := by
    rw [Match.bound, Array.getElem?_eq_none (by omega)]
    rfl
  rw [Match.group, hbound]

end Matches

end Newswire.Pattern
