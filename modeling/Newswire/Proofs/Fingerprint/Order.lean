import Newswire.Proofs.Fingerprint.Passing

/-!
# The order of delivery

Known articles that are let through again are delivered before the new ones, each kind in the
reversed order of the input. The whole is in the reversed order of the input only where no known
article that is delivered was given before a new one that is.
-/

namespace Newswire.Selection

section Lists

variable {α : Type}

/-- What passes a test can be put first within the order of a list only where it is first. -/
theorem filter_append_filter_not_sublist_iff (test : α → Bool) (l : List α) :
    (l.filter test ++ l.filter (!test ·)).Sublist l ↔
      l.Pairwise fun x y => test y = true → test x = true := by
  constructor
  · intro h
    have heq : l.filter test ++ l.filter (!test ·) = l :=
      h.eq_of_length (List.filter_append_perm test l).length_eq
    have hpasses : ∀ x ∈ l.filter test, test x = true := by
      intro x hx
      exact (List.mem_filter.mp hx).2
    rw [← heq, List.pairwise_append]
    refine ⟨?_, ?_, ?_⟩
    · apply List.pairwise_of_forall_mem_list
      intro x hx y _ _
      exact hpasses x hx
    · apply List.pairwise_of_forall_mem_list
      intro x _ y hy hp
      have hfails := (List.mem_filter.mp hy).2
      rw [hp] at hfails
      cases hfails
    · intro x hx y _ _
      exact hpasses x hx
  · intro h
    induction l with
    | nil => exact List.Sublist.refl _
    | cons x rest ih =>
        obtain ⟨hx, hrest⟩ := List.pairwise_cons.mp h
        by_cases hp : test x = true
        · rw [List.filter_cons_of_pos hp, List.filter_cons_of_neg (by simp [hp])]
          exact (ih hrest).cons_cons x
        · -- Nothing behind the first one that fails the test passes it.
          have hnone : ∀ y ∈ x :: rest, ¬test y = true := by
            intro y hy hpy
            rcases List.mem_cons.mp hy with rfl | hy
            · exact hp hpy
            · exact hp (hx y hy hpy)
          rw [List.filter_eq_nil_iff.mpr hnone]
          exact List.filter_sublist

/-- Of a list two parts are taken and put one behind the other, of which only the first passes a
test. This keeps the order of the list unless something of the second part is before something of
the first one. -/
theorem parts_sublist_iff {test p q : α → Bool} (hp : ∀ x, p x = true → test x = true)
    (hq : ∀ x, q x = true → test x = false) (l : List α) :
    (l.filter p ++ l.filter q).Sublist l ↔
      l.Pairwise fun x y => x ∈ l.filter p ++ l.filter q → y ∈ l.filter p ++ l.filter q →
        test y = true → test x = true := by
  have hpart (x : α) : (test x && (p x || q x)) = p x ∧ (!test x && (p x || q x)) = q x := by
    have hpx := hp x
    have hqx := hq x
    revert hpx hqx
    cases test x <;> cases p x <;> cases q x <;> simp
  have hparts : l.filter p ++ l.filter q =
      (l.filter fun x => p x || q x).filter test ++
        (l.filter fun x => p x || q x).filter (!test ·) := by
    simp only [List.filter_filter, hpart]
  have hwithin : (l.filter p ++ l.filter q).Sublist l ↔
      (l.filter p ++ l.filter q).Sublist (l.filter fun x => p x || q x) := by
    constructor
    · intro h
      have hall : ∀ x ∈ l.filter p ++ l.filter q, (p x || q x) = true := by
        simp only [List.mem_append, List.mem_filter, Bool.or_eq_true]
        intro x hx
        exact hx.imp And.right And.right
      rw [← List.filter_eq_self.mpr hall]
      exact h.filter _
    · intro h
      exact h.trans List.filter_sublist
  rw [hwithin, hparts, filter_append_filter_not_sublist_iff, List.pairwise_filter, ← hparts]
  apply List.Pairwise.iff_of_mem
  intro x y hx hy
  simp only [List.mem_append, List.mem_filter, hx, hy, true_and, Bool.or_eq_true]

end Lists

/-- How what is delivered in a round stands to the order of the input. -/
structure Round.Arranges (r : Round) (fs : Fingerprints) (deliver : List Article) : Prop where
  knownFirst : deliver =
    deliver.filter (isKnown r.feed fs) ++ deliver.filter (!isKnown r.feed fs ·)
  known : (deliver.filter (isKnown r.feed fs)).Sublist r.articles.reverse
  new : (deliver.filter (!isKnown r.feed fs ·)).Sublist r.articles.reverse
  /-- The input is reversed unless a known article was given before a new one. -/
  reversed_iff : deliver.Sublist r.articles.reverse ↔
    ∀ a b, [a, b].Sublist r.articles → a ∈ deliver → b ∈ deliver → r.Knows fs a → r.Knows fs b

variable {r : Round} {fs : Fingerprints}

theorem arranges_of_parts {p q : Article → Bool}
    (hp : ∀ a, p a = true → isKnown r.feed fs a = true)
    (hq : ∀ a, q a = true → isKnown r.feed fs a = false) :
    r.Arranges fs (r.articles.reverse.filter p ++ r.articles.reverse.filter q) := by
  obtain ⟨hknown, hnew⟩ := filter_append_eq
    (fun a ha => hp a (List.mem_filter.mp ha).2 : ∀ a ∈ r.articles.reverse.filter p, _)
    (fun a ha => hq a (List.mem_filter.mp ha).2 : ∀ a ∈ r.articles.reverse.filter q, _)
  constructor
  · rw [hknown, hnew]
  · rw [hknown]
    exact List.filter_sublist
  · rw [hnew]
    exact List.filter_sublist
  · rw [parts_sublist_iff hp hq, List.pairwise_reverse, List.pairwise_iff_forall_sublist]
    constructor
    · intro h a b hab ha hb
      exact h hab hb ha
    · intro h a b hab hb ha
      exact h a b hab ha hb

/-- What is delivered are two parts of the reversed input, of known and of new articles. -/
theorem arranges_chosen (r : Round) (fs : Fingerprints) :
    r.Arranges fs (chosen r.policy r.feed fs r.articles r.options r.now).deliver := by
  obtain ⟨hdeliver, -⟩ | hdeliver := (chosen_cases r fs).2
  · rw [hdeliver]
    constructor
    · rfl
    · exact List.nil_sublist _
    · exact List.nil_sublist _
    · simp
  · rw [hdeliver, Round.again, Round.admitted, List.filter_filter, List.filter_filter,
      ← List.filter_reverse, ← List.filter_reverse]
    apply arranges_of_parts
    · intro a ha
      simp only [Bool.and_eq_true] at ha
      exact ha.2.1
    · intro a ha
      simp only [Bool.and_eq_true, Bool.not_eq_true'] at ha
      exact ha.2.1

/-- The known articles that are delivered come first and then the new ones, each kind in the
reversed order of the input. The whole is in that order exactly when no known article that is
delivered was given before a new one that is. -/
theorem deliver_reversed_iff (r : Round) (w : World) :
    ∃ n, (∃ selection, carryOut r.around r.choosing w = (.ok selection, { w with calls := n }) ∧
        r.Arranges w.stores.fingerprints selection.deliver) ∨
      r.around.Disturbed ∧
        ∃ o, carryOut r.around r.choosing w = (.error (.outage o), { w with calls := n }) := by
  apply choosing_of_chosen (P := fun selection => r.Arranges w.stores.fingerprints selection.deliver)
  exact arranges_chosen r w.stores.fingerprints

/-- A known article of which the summary has changed, and a new one behind it. -/
def revised : Round where
  feed := "f"
  articles :=
    [{ flattened := Fields.ofList [("idHash", "a"), ("summary", "2")] },
     { flattened := Fields.ofList [("idHash", "b"), ("summary", "3")] }]
  options := { passing := ["summary"] }

/-- The stores after an earlier version of the known article. -/
def revisedBefore : World where
  stores := { fingerprints := { rows :=
    [⟨"f", "idHash", "a", false, 0⟩, ⟨"f", "summary", Text.digest "1", true, 0⟩] } }

/-- Both are delivered, in the order in which they are given. -/
theorem revised_not_reversed :
    (carryOut {} revised.choosing revisedBefore).1.map Selection.deliver = .ok revised.articles ∧
      ¬revised.articles.Sublist revised.articles.reverse := by
  decide +kernel

end Newswire.Selection
