import Mathlib.Data.List.Pairwise
import Mathlib.Data.Nat.Basic
import Mathlib.Order.Basic
import Newswire.Delivery.Records

/-!
# Records and their keys

At most one record is kept for an event, a connection and an article. An attempt is recorded exactly
when there is no record of its key yet, and what is recorded stays in its place.
-/

namespace Newswire.Delivery.Records

/-- There is a record for the event, connection and article of the attempt. -/
def covers (rs : Records) (a : Attempt) : Bool := rs.rows.any (·.attempt.matchesKey a)

/-- An attempt is covered by the key that its event has recorded. -/
theorem covers_iff (rs : Records) (a : Attempt) :
    rs.covers a = true ↔ (a.connection, a.article) ∈ rs.ofEvent a.event := by
  simp [covers, ofEvent, Attempt.matchesKey, and_assoc]

theorem mem_ofEvent_iff (rs : Records) (event : String) (key : String × String) :
    key ∈ rs.ofEvent event ↔ ∃ x ∈ rs.rows, x.attempt.event = event ∧
      (x.attempt.connection, x.attempt.article) = key := by
  simp [ofEvent, and_assoc]

private theorem le_foldl_max (ns : List Nat) (m : Nat) :
    m ≤ ns.foldl max m ∧ ∀ n ∈ ns, n ≤ ns.foldl max m := by
  induction ns generalizing m with
  | nil => simp
  | cons k rest ih =>
      obtain ⟨hm, hr⟩ := ih (max m k)
      refine ⟨le_trans (le_max_left m k) hm, ?_⟩
      rintro n (_ | ⟨_, hn⟩)
      · exact le_trans (le_max_right m k) hm
      · exact hr n hn

/-- The number that is drawn belongs to no record. -/
theorem id_ne_fresh (rs : Records) {r : Record} (hr : r ∈ rs.rows) :
    r.id ≠ .drawn rs.freshNumber := by
  intro h
  have hle : rs.freshNumber ≤ (rs.rows.map fun r => r.id.number).foldl max 0 := by
    have hn : r.id.number = rs.freshNumber := by rw [h]; rfl
    exact hn ▸ (le_foldl_max _ 0).2 r.id.number (List.mem_map_of_mem hr)
  exact absurd hle (Nat.not_succ_le_self _)

/-- Only a record of the same key keeps an attempt from being recorded. -/
theorem insertNew_eq (rs : Records) (a : Attempt) :
    rs.insertNew a =
      if rs.covers a then (false, rs)
      else (true, ⟨rs.rows ++ [⟨.drawn rs.freshNumber, a⟩]⟩) := by
  have hc : rs.rows.any (·.clashes ⟨.drawn rs.freshNumber, a⟩) = rs.covers a := by
    rw [Bool.eq_iff_iff, covers, List.any_eq_true, List.any_eq_true]
    refine exists_congr fun r => and_congr_right fun hr => ?_
    simp [Record.clashes, rs.id_ne_fresh hr]
  rw [insertNew, insert, hc]

theorem insertNew_added (rs : Records) (a : Attempt) :
    (rs.insertNew a).1 = !rs.covers a := by
  rw [insertNew_eq]
  cases rs.covers a <;> rfl

/-- The record that an attempt leaves, if there is none of its key. -/
def added (rs : Records) (a : Attempt) : List Record :=
  if rs.covers a then [] else [⟨.drawn rs.freshNumber, a⟩]

theorem attempt_of_mem_added {rs : Records} {a : Attempt} {x : Record} (h : x ∈ rs.added a) :
    x.attempt = a := by
  unfold added at h
  split at h
  · cases h
  · rw [List.mem_singleton.mp h]

theorem insertNew_rows (rs : Records) (a : Attempt) :
    (rs.insertNew a).2.rows = rs.rows ++ rs.added a := by
  rw [insertNew_eq, added]
  cases rs.covers a <;> simp

/-- After an attempt there is a record of its key. -/
theorem insertNew_covers (rs : Records) (a : Attempt) : (rs.insertNew a).2.covers a = true := by
  rw [insertNew_eq]
  cases hc : rs.covers a with
  | true => simpa using hc
  | false => simp [covers, Attempt.matchesKey]

/-- The attempts on record that pass a test, in their order and without their numbers. -/
def attempts (rs : Records) (test : Attempt → Bool) : List Attempt :=
  (rs.rows.map (·.attempt)).filter test

section Attempts

variable {rs rs' : Records} {test : Attempt → Bool} {a : Attempt}

/-- Whether there is a record of a key is seen by any test that passes all of that key. -/
theorem covers_eq_any (h : ∀ b, b.matchesKey a = true → test b = true) :
    rs.covers a = (rs.attempts test).any (·.matchesKey a) := by
  rw [Bool.eq_iff_iff]
  simp only [covers, attempts, List.any_eq_true, List.mem_filter, List.mem_map]
  constructor
  · rintro ⟨x, hx, hk⟩
    exact ⟨x.attempt, ⟨⟨x, hx, rfl⟩, h _ hk⟩, hk⟩
  · rintro ⟨_, ⟨⟨x, hx, rfl⟩, -⟩, hk⟩
    exact ⟨x, hx, hk⟩

theorem attempts_insertNew (ha : test a = true) :
    (rs.insertNew a).2.attempts test = rs.attempts test ++ if rs.covers a then [] else [a] := by
  rw [insertNew_eq]
  cases hc : rs.covers a with
  | true => simp
  | false => simp [attempts, ha]

/-- An attempt is taken alike by records that are the same to a test. -/
theorem insertNew_alike (h : ∀ b, b.matchesKey a = true → test b = true)
    (ha : test a = true) (hsame : rs.attempts test = rs'.attempts test) :
    (rs.insertNew a).1 = (rs'.insertNew a).1 ∧
      (rs.insertNew a).2.attempts test = (rs'.insertNew a).2.attempts test := by
  have hcovers : rs.covers a = rs'.covers a := by
    rw [covers_eq_any h, covers_eq_any h, hsame]
  constructor
  · rw [insertNew_added, insertNew_added, hcovers]
  · rw [attempts_insertNew ha, attempts_insertNew ha, hsame, hcovers]

theorem attempts_delete (feed : String) :
    (rs.delete feed).2.attempts test = (rs.attempts test).filter (·.feed != feed) := by
  rw [attempts, attempts, delete, List.filter_filter, List.filter_map, List.filter_map,
    List.filter_filter]
  refine congrArg _ (List.filter_congr fun x _ => ?_)
  exact Bool.and_comm ..

end Attempts

theorem matchesKey_comm (a b : Attempt) : a.matchesKey b = b.matchesKey a := by
  simp only [Attempt.matchesKey]
  rw [BEq.comm, BEq.comm (a := a.connection), BEq.comm (a := a.article)]

/-- No two records have the same key. -/
def Distinct (rs : Records) : Prop :=
  rs.rows.Pairwise fun x y => x.attempt.matchesKey y.attempt = false

theorem Distinct.insertNew {rs : Records} (h : rs.Distinct) (a : Attempt) :
    (rs.insertNew a).2.Distinct := by
  rw [insertNew_eq]
  cases hc : rs.covers a with
  | true => exact h
  | false =>
      refine List.pairwise_append.mpr ⟨h, List.pairwise_singleton .., fun x hx y hy => ?_⟩
      obtain rfl := List.mem_singleton.mp hy
      simpa using List.any_eq_false.mp hc x hx

theorem Distinct.delete {rs : Records} (h : rs.Distinct) (feed : String) :
    (rs.delete feed).2.Distinct := List.Pairwise.filter _ h

/-- A record is the only one of its key. -/
theorem Distinct.eq_of_matchesKey {rs : Records} (h : rs.Distinct) {x y : Record}
    (hx : x ∈ rs.rows) (hy : y ∈ rs.rows) (hk : y.attempt.matchesKey x.attempt = true) : y = x := by
  have hsymm : Std.Symm fun x y : Record => x.attempt.matchesKey y.attempt = false :=
    ⟨fun x y hxy => by rw [matchesKey_comm, hxy]⟩
  by_contra hne
  have hn := List.Pairwise.forall h hy hx hne
  rw [hk] at hn
  cases hn

theorem newerFirst_iff (x y : Record) :
    newerFirst x y = true ↔ y.attempt.time < x.attempt.time ∨
      y.attempt.time = x.attempt.time ∧ x.id.text ≤ y.id.text := by
  simp [newerFirst]

theorem newerFirst_trans (x y z : Record) (h : newerFirst x y = true)
    (h' : newerFirst y z = true) : newerFirst x z = true := by
  rw [newerFirst_iff] at h h' ⊢
  obtain h | ⟨h, hxy⟩ := h <;> obtain h' | ⟨h', hyz⟩ := h'
  · exact Or.inl (by omega)
  · exact Or.inl (by omega)
  · exact Or.inl (by omega)
  · exact Or.inr ⟨h'.trans h, String.le_trans hxy hyz⟩

theorem newerFirst_total (x y : Record) : (newerFirst x y || newerFirst y x) = true := by
  rw [Bool.or_eq_true, newerFirst_iff, newerFirst_iff]
  obtain h | h | h := Int.lt_trichotomy y.attempt.time x.attempt.time
  · exact Or.inl (Or.inl h)
  · obtain ht | ht := String.le_total x.id.text y.id.text
    · exact Or.inl (Or.inr ⟨h, ht⟩)
    · exact Or.inr (Or.inr ⟨h.symm, ht⟩)
  · exact Or.inr (Or.inl h)

/-- Records that differ in nothing but what they are known by are listed at the same times. -/
theorem latest_times {rs rs' : Records} {feed : String}
    (h : (rs.ofFeed feed).map (·.attempt) = (rs'.ofFeed feed).map (·.attempt)) (limit : Int) :
    (rs.latest feed limit).map (·.attempt.time) = (rs'.latest feed limit).map (·.attempt.time) := by
  have sorted (rows : List Record) :
      ((rows.mergeSort newerFirst).map (·.attempt.time)).Pairwise (· ≥ ·) := by
    refine List.pairwise_map.mpr ?_
    refine (List.pairwise_mergeSort newerFirst_trans newerFirst_total rows).imp fun {x y} hxy => ?_
    obtain hlt | ⟨heq, -⟩ := (newerFirst_iff x y).mp hxy
    · exact Int.le_of_lt hlt
    · exact Int.le_of_eq heq
  have htimes : ((rs.ofFeed feed).mergeSort newerFirst).map (·.attempt.time) =
      ((rs'.ofFeed feed).mergeSort newerFirst).map (·.attempt.time) := by
    have hperm : ((rs.ofFeed feed).map (·.attempt.time)).Perm
        ((rs'.ofFeed feed).map (·.attempt.time)) := by
      have ht := congrArg (List.map (·.time)) h
      rw [List.map_map, List.map_map] at ht
      exact .of_eq ht
    refine List.Perm.eq_of_pairwise (fun x y _ _ hxy hyx => Int.le_antisymm hyx hxy) (sorted _)
      (sorted _) ?_
    exact ((List.mergeSort_perm ..).map _).trans (hperm.trans ((List.mergeSort_perm ..).map _).symm)
  unfold latest
  dsimp only
  split
  · exact htimes
  · rw [List.map_take, List.map_take, htimes]

end Newswire.Delivery.Records
