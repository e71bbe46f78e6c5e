import Mathlib.Data.List.Basic
import Newswire.Character.Ranges

/-!
# What sets of characters hold

A set whose ranges are in order is determined by the code points that it holds. The operations keep
the ranges in order, and what the result holds follows from what the operands hold.
-/

namespace Newswire.CharSet

/-- A code point lies in one of the ranges. -/
def Covers (rs : List (Nat × Nat)) (n : Nat) : Prop := ∃ r ∈ rs, r.1 ≤ n ∧ n ≤ r.2

/-- No range is empty, none goes beyond the last code point, and each begins behind a gap. -/
structure InOrder (rs : List (Nat × Nat)) : Prop where
  apart : rs.Pairwise fun r s => r.2 + 1 < s.1
  filled : ∀ r ∈ rs, r.1 ≤ r.2
  bounded : ∀ r ∈ rs, r.2 ≤ top

def Holds (s : CharSet) (n : Nat) : Prop := Covers s.ranges.toList n

def IsTidy (s : CharSet) : Prop := InOrder s.ranges.toList

section Ranges

variable {rs : List (Nat × Nat)} {r : Nat × Nat} {n : Nat}

@[simp] theorem covers_nil : ¬ Covers [] n := by simp [Covers]

@[simp] theorem covers_cons : Covers (r :: rs) n ↔ (r.1 ≤ n ∧ n ≤ r.2) ∨ Covers rs n := by
  simp [Covers]

@[simp] theorem covers_append {ss : List (Nat × Nat)} :
    Covers (rs ++ ss) n ↔ Covers rs n ∨ Covers ss n := by
  simp [Covers, or_and_right, exists_or]

theorem Covers.perm {ss : List (Nat × Nat)} (h : Covers rs n) (hp : rs.Perm ss) : Covers ss n := by
  obtain ⟨r, hr, hn⟩ := h
  exact ⟨r, hp.subset hr, hn⟩

theorem inOrder_nil : InOrder [] := ⟨List.Pairwise.nil, by simp, by simp⟩

/-- A range may stand in front if it leaves a gap to all others. -/
theorem InOrder.cons (h : InOrder rs) (hr : r.1 ≤ r.2) (htop : r.2 ≤ top)
    (hgap : ∀ s ∈ rs, r.2 + 1 < s.1) : InOrder (r :: rs) :=
  ⟨List.pairwise_cons.mpr ⟨hgap, h.apart⟩, List.forall_mem_cons.mpr ⟨hr, h.filled⟩,
    List.forall_mem_cons.mpr ⟨htop, h.bounded⟩⟩

theorem InOrder.tail (h : InOrder (r :: rs)) : InOrder rs :=
  ⟨h.apart.tail, fun s hs => h.filled s (List.mem_cons_of_mem _ hs),
    fun s hs => h.bounded s (List.mem_cons_of_mem _ hs)⟩

theorem inOrder_singleton (hr : r.1 ≤ r.2) (htop : r.2 ≤ top) : InOrder [r] :=
  inOrder_nil.cons hr htop (by simp)

/-- A range may follow at the end if it leaves a gap to all others. -/
theorem inOrder_concat (h : InOrder rs) (hr : r.1 ≤ r.2) (htop : r.2 ≤ top)
    (hgap : ∀ s ∈ rs, s.2 + 1 < r.1) : InOrder (rs ++ [r]) :=
  ⟨List.pairwise_append.mpr ⟨h.apart, List.pairwise_singleton .., by simpa using hgap⟩,
    List.forall_mem_append.mpr ⟨h.filled, by simpa using hr⟩,
    List.forall_mem_append.mpr ⟨h.bounded, by simpa using htop⟩⟩

end Ranges

section Append

variable {out : Array (Nat × Nat)} {r : Nat × Nat}

/-- What adding a range makes of ranges that start no later. -/
structure Appended (out : Array (Nat × Nat)) (r : Nat × Nat) (new : Array (Nat × Nat)) : Prop where
  inOrder : InOrder new.toList
  covers : ∀ n, Covers new.toList n ↔ Covers out.toList n ∨ (r.1 ≤ n ∧ n ≤ r.2)
  starts : ∀ s ∈ new.toList, s.1 ≤ r.1

theorem appended_append (h : InOrder out.toList) (htop : r.2 ≤ top)
    (hstart : ∀ s ∈ out.toList, s.1 ≤ r.1) : Appended out r (append out r) := by
  unfold append
  by_cases hempty : r.2 < r.1
  · rw [if_pos hempty]
    exact ⟨h, fun n => ⟨Or.inl, fun hn => hn.elim id fun hr => by omega⟩, hstart⟩
  rw [if_neg hempty]
  have hr : r.1 ≤ r.2 := Nat.le_of_not_lt hempty
  rcases Nat.eq_zero_or_pos out.size with hsize | hsize
  · obtain rfl := Array.eq_empty_of_size_eq_zero hsize
    exact ⟨inOrder_singleton hr htop, by simp, by simp⟩
  · obtain ⟨front, ⟨a, b⟩, rfl⟩ := Array.eq_push_of_size_ne_zero (Nat.ne_of_gt hsize)
    simp only [Array.toList_push, List.mem_append, List.mem_singleton] at h hstart
    have ha : a ≤ r.1 := hstart (a, b) (Or.inr rfl)
    have hab : a ≤ b := h.filled (a, b) (by simp)
    have hb : b ≤ top := h.bounded (a, b) (by simp)
    obtain ⟨hfront, -, hlast⟩ := List.pairwise_append.mp h.apart
    have hbefore (s : Nat × Nat) (hs : s ∈ front.toList) : s.2 + 1 < a :=
      hlast s hs (a, b) (List.mem_singleton.mpr rfl)
    have hinner : InOrder front.toList :=
      ⟨hfront, fun s hs => h.filled s (List.mem_append_left _ hs),
        fun s hs => h.bounded s (List.mem_append_left _ hs)⟩
    simp only [Array.back?_push, Array.pop_push]
    split
    · next htouch =>
      -- The new range touches the last one and is joined to it.
      constructor
      · rw [Array.toList_push]
        exact inOrder_concat hinner (by simp; omega) (by simp; omega) hbefore
      · intro n
        simp only [Array.toList_push, covers_append, covers_cons, covers_nil, or_false]
        constructor
        · rintro (hn | hn)
          · exact Or.inl (Or.inl hn)
          · by_cases hle : n ≤ b
            · exact Or.inl (Or.inr ⟨hn.1, hle⟩)
            · exact Or.inr (by omega)
        · rintro ((hn | hn) | hn)
          · exact Or.inl hn
          · exact Or.inr (by omega)
          · exact Or.inr (by omega)
      · simp only [Array.toList_push, List.mem_append, List.mem_singleton]
        rintro s (hs | rfl)
        · exact hstart s (Or.inl hs)
        · exact ha
    · next hgap =>
      constructor
      · rw [Array.toList_push]
        refine inOrder_concat (by simpa using h) hr htop ?_
        simp only [Array.toList_push, List.mem_append, List.mem_singleton]
        rintro s (hs | rfl)
        · have hs := hbefore s hs
          omega
        · simpa using hgap
      · intro n
        simp only [Array.toList_push, covers_append, covers_cons, covers_nil, or_false]
      · simp only [Array.toList_push, List.mem_append, List.mem_singleton]
        rintro s (hs | rfl)
        · exact hstart s hs
        · exact Nat.le_refl _

/-- Ranges that are added in the order of their starts. -/
theorem foldl_append {rs : List (Nat × Nat)} (hsorted : rs.Pairwise fun r s => r.1 ≤ s.1)
    (htop : ∀ r ∈ rs, r.2 ≤ top) (h : InOrder out.toList)
    (hstart : ∀ r ∈ rs, ∀ s ∈ out.toList, s.1 ≤ r.1) :
    InOrder (rs.foldl append out).toList ∧
      ∀ n, Covers (rs.foldl append out).toList n ↔ Covers out.toList n ∨ Covers rs n := by
  induction rs generalizing out with
  | nil => exact ⟨h, by simp⟩
  | cons r rest ih =>
      obtain ⟨hfirst, hrest⟩ := List.pairwise_cons.mp hsorted
      have hnew := appended_append h (htop r (List.mem_cons_self ..))
        (hstart r (List.mem_cons_self ..))
      obtain ⟨horder, hcovers⟩ := ih hrest (fun s hs => htop s (List.mem_cons_of_mem _ hs))
        hnew.inOrder fun t ht s hs => Nat.le_trans (hnew.starts s hs) (hfirst t ht)
      refine ⟨horder, fun n => ?_⟩
      rw [List.foldl_cons, hcovers, hnew.covers, covers_cons, or_assoc]

end Append

section Operations

variable {s t : CharSet} {rs : List (Nat × Nat)} {n : Nat}

theorem ofRanges_spec (htop : ∀ r ∈ rs, r.2 ≤ top) :
    (ofRanges rs).IsTidy ∧ ∀ n, (ofRanges rs).Holds n ↔ Covers rs n := by
  have hperm := List.mergeSort_perm rs fun r s => decide (r.1 ≤ s.1)
  have hsorted : (rs.mergeSort fun r s => decide (r.1 ≤ s.1)).Pairwise
      fun r s => decide (r.1 ≤ s.1) = true :=
    List.pairwise_mergeSort (by simp only [decide_eq_true_eq]; omega) (by simp; omega) rs
  have hnone : InOrder (#[] : Array (Nat × Nat)).toList := inOrder_nil
  obtain ⟨horder, hcovers⟩ := foldl_append (hsorted.imp of_decide_eq_true)
    (fun r hr => htop r (hperm.subset hr)) hnone (by simp)
  refine ⟨horder, fun n => ?_⟩
  rw [Holds, ofRanges, hcovers]
  simp only [covers_nil, false_or]
  exact ⟨fun h => h.perm hperm, fun h => h.perm hperm.symm⟩

theorem IsTidy.ofRanges (htop : ∀ r ∈ rs, r.2 ≤ top) : (ofRanges rs).IsTidy :=
  (ofRanges_spec htop).1

theorem IsTidy.union (hs : s.IsTidy) (ht : t.IsTidy) : (s.union t).IsTidy := by
  unfold CharSet.union
  split
  · exact ht
  split
  · exact hs
  · apply IsTidy.ofRanges
    intro r hr
    exact (List.mem_append.mp hr).elim (hs.bounded r) (ht.bounded r)

theorem holds_union (hs : s.IsTidy) (ht : t.IsTidy) :
    (s.union t).Holds n ↔ s.Holds n ∨ t.Holds n := by
  unfold CharSet.union
  split
  · next hempty => simp [Holds, Array.isEmpty_iff.mp hempty]
  split
  · next hempty => simp [Holds, Array.isEmpty_iff.mp hempty]
  · rw [(ofRanges_spec fun r hr =>
      (List.mem_append.mp hr).elim (hs.bounded r) (ht.bounded r)).2, covers_append]
    rfl

/-- Between ranges in order there are the code points that no range covers. -/
theorem gaps_spec (h : InOrder rs) (start : Nat) (hstart : ∀ r ∈ rs, start ≤ r.1) :
    InOrder (gaps start rs) ∧ (∀ r ∈ gaps start rs, start ≤ r.1) ∧
      ∀ n, Covers (gaps start rs) n ↔ start ≤ n ∧ n ≤ top ∧ ¬ Covers rs n := by
  induction rs generalizing start with
  | nil =>
      unfold gaps
      split
      · next hle => exact ⟨inOrder_singleton hle (Nat.le_refl _), by simp, by simp⟩
      · next hlt => exact ⟨inOrder_nil, by simp, fun n => by simp; omega⟩
  | cons r rest ih =>
      obtain ⟨a, b⟩ := r
      have hab : a ≤ b := h.filled (a, b) (List.mem_cons_self ..)
      have hb : b ≤ top := h.bounded (a, b) (List.mem_cons_self ..)
      have ha : start ≤ a := hstart (a, b) (List.mem_cons_self ..)
      have hrest := (List.pairwise_cons.mp h.apart).1
      obtain ⟨horder, hfrom, hcovers⟩ := ih h.tail (b + 1) fun r hr => Nat.le_of_lt (hrest r hr)
      have hlater {n : Nat} (hn : Covers rest n) : b < n := by
        obtain ⟨r, hr, hle, -⟩ := hn
        have hgap : b + 1 < r.1 := hrest r hr
        omega
      unfold gaps
      split
      · next hlt =>
        refine ⟨horder.cons (by simp only; omega) (by simp only; omega) fun r hr => ?_,
          List.forall_mem_cons.mpr ⟨Nat.le_refl _, fun r hr => ?_⟩, fun n => ?_⟩
        · have hr := hfrom r hr
          simp only
          omega
        · have hr := hfrom r hr
          omega
        · rw [covers_cons, covers_cons, hcovers]
          by_cases hc : Covers rest n
          · have hn := hlater hc
            simp only [hc, or_true, not_true_eq_false, and_false, or_false, iff_false]
            omega
          · simp only [hc, or_false, not_false_eq_true, and_true]
            omega
      · refine ⟨horder, fun r hr => ?_, fun n => ?_⟩
        · have hr := hfrom r hr
          omega
        · rw [covers_cons, hcovers]
          by_cases hc : Covers rest n
          · simp only [hc, or_true, not_true_eq_false, and_false]
          · simp only [hc, or_false, not_false_eq_true, and_true]
            omega

theorem IsTidy.negate (hs : s.IsTidy) : s.negate.IsTidy := by
  have h := (gaps_spec hs 0 fun _ _ => Nat.zero_le _).1
  simpa [IsTidy, CharSet.negate] using h

theorem holds_negate (hs : s.IsTidy) : s.negate.Holds n ↔ n ≤ top ∧ ¬ s.Holds n := by
  have h := (gaps_spec hs 0 fun _ _ => Nat.zero_le _).2.2 n
  simpa [Holds, CharSet.negate] using h

theorem le_top_of_holds (hs : s.IsTidy) (h : s.Holds n) : n ≤ top := by
  obtain ⟨r, hr, -, hle⟩ := h
  exact Nat.le_trans hle (hs.bounded r hr)

theorem IsTidy.inter (hs : s.IsTidy) (ht : t.IsTidy) : (s.inter t).IsTidy :=
  (hs.negate.union ht.negate).negate

theorem holds_inter (hs : s.IsTidy) (ht : t.IsTidy) :
    (s.inter t).Holds n ↔ s.Holds n ∧ t.Holds n := by
  rw [CharSet.inter, holds_negate (hs.negate.union ht.negate), holds_union hs.negate ht.negate,
    holds_negate hs, holds_negate ht]
  constructor
  · rintro ⟨hn, h⟩
    constructor
    · by_contra hno
      exact h (Or.inl ⟨hn, hno⟩)
    · by_contra hno
      exact h (Or.inr ⟨hn, hno⟩)
  · rintro ⟨h, h'⟩
    refine ⟨le_top_of_holds hs h, ?_⟩
    rintro (⟨-, hno⟩ | ⟨-, hno⟩)
    · exact hno h
    · exact hno h'

theorem IsTidy.diff (hs : s.IsTidy) (ht : t.IsTidy) : (s.diff t).IsTidy := hs.inter ht.negate

theorem holds_diff (hs : s.IsTidy) (ht : t.IsTidy) :
    (s.diff t).Holds n ↔ s.Holds n ∧ ¬ t.Holds n := by
  rw [CharSet.diff, holds_inter hs ht.negate, holds_negate ht]
  exact ⟨fun h => ⟨h.1, h.2.2⟩, fun h => ⟨h.1, le_top_of_holds hs h.1, h.2⟩⟩

theorem IsTidy.symmDiff (hs : s.IsTidy) (ht : t.IsTidy) : (s.symmDiff t).IsTidy :=
  (hs.union ht).diff (hs.inter ht)

theorem holds_symmDiff (hs : s.IsTidy) (ht : t.IsTidy) :
    (s.symmDiff t).Holds n ↔ (s.Holds n ∨ t.Holds n) ∧ ¬ (s.Holds n ∧ t.Holds n) := by
  rw [CharSet.symmDiff, holds_diff (hs.union ht) (hs.inter ht), holds_union hs ht,
    holds_inter hs ht]

/-- A set in order lies within ASCII if all that it holds does. -/
theorem isAscii_iff (hs : s.IsTidy) : s.isAscii = true ↔ ∀ n, s.Holds n → n < 0x80 := by
  rw [isAscii, ← Array.all_toList, List.all_eq_true]
  constructor
  · rintro h n ⟨r, hr, -, hle⟩
    have hlt := of_decide_eq_true (h r hr)
    omega
  · intro h r hr
    exact decide_eq_true (h r.2 ⟨r, hr, hs.filled r hr, Nat.le_refl _⟩)

end Operations

end Newswire.CharSet
