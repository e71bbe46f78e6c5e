import Newswire.Proofs.Fingerprint.Rounds

/-!
# Articles that are let through again

Of the known articles of a round those are let through of which an active passing field is filled
and no passing field has a value that is stored. One passing field that has not changed is thus
enough to hold an article back, whatever the others are.
-/

namespace Newswire.Selection

namespace Round

variable (r : Round)

/-- The known articles that are let through. -/
def again (fs : Fingerprints) : List Article :=
  r.articles.filter fun a => isKnown r.feed fs a &&
    isChanged r.policy r.feed fs (r.options.passing.filter (fs.hasField r.feed)) a

/-- The new articles that are not held back. -/
def admitted (fs : Fingerprints) : List Article :=
  r.articles.filter fun a => !isKnown r.feed fs a &&
    !isSeen r.policy r.feed fs (r.options.blocking.filter (fs.hasField r.feed)) a

/-- An active passing field of the article is filled with a value that is not stored. -/
def HasNews (fs : Fingerprints) (a : Article) : Prop :=
  ∃ name ∈ r.options.passing, fs.hasField r.feed name = true ∧
    ∃ value, a.filled? name = some value ∧ fs.holds r.feed name (r.policy.kept value).1 = false

/-- What becomes of the known articles of a round. -/
structure Repeats (fs : Fingerprints) (selection : Selection) : Prop where
  counted : selection.passed = (r.again fs).length
  delivered : selection.deliver.filter (isKnown r.feed fs) =
    ((r.again fs).filter (isRecent r.options r.now)).reverse
  mem_iff : ∀ a ∈ r.articles, r.Knows fs a → (a ∈ r.again fs ↔ r.LetsThrough fs a)
  /-- That the articles with news are let through is true of those of which no passing field has a
  stored value beside the news. -/
  news_iff : ∀ a ∈ r.articles, r.Knows fs a → ((a ∈ r.again fs ↔ r.HasNews fs a) ↔
    (r.HasNews fs a → ∀ name ∈ r.options.passing, ¬r.IsStored fs a name))

end Round

variable {r : Round} {fs : Fingerprints} {a : Article}

theorem mem_again_iff :
    a ∈ r.again fs ↔ a ∈ r.articles ∧ r.Knows fs a ∧ r.LetsThrough fs a := by
  rw [Round.again, List.mem_filter, Bool.and_eq_true, isChanged_active_iff]
  rfl

theorem letsThrough_iff :
    r.LetsThrough fs a ↔
      r.HasNews fs a ∧ ∀ name ∈ r.options.passing, ¬r.IsStored fs a name := by
  constructor
  · rintro ⟨⟨name, hname, hactive, hfilled⟩, hnone⟩
    obtain ⟨value, hv⟩ := Option.isSome_iff_exists.mp hfilled
    refine ⟨⟨name, hname, hactive, value, hv, ?_⟩, hnone⟩
    rw [← Bool.not_eq_true]
    intro hh
    exact hnone name hname ⟨value, hv, hh⟩
  · rintro ⟨⟨name, hname, hactive, value, hv, -⟩, hnone⟩
    exact ⟨⟨name, hname, hactive, by rw [hv]; rfl⟩, hnone⟩

theorem isKnown_of_mem_again (h : a ∈ r.again fs) : isKnown r.feed fs a = true :=
  (mem_again_iff.mp h).2.1

theorem isKnown_of_mem_admitted (h : a ∈ r.admitted fs) : isKnown r.feed fs a = false := by
  have hpasses := (List.mem_filter.mp h).2
  rw [Bool.and_eq_true, Bool.not_eq_true'] at hpasses
  exact hpasses.1

/-- Where no identity is stored no article is let through again. -/
theorem again_eq_nil (h : fs.hasField r.feed Article.identityField = false) :
    r.again fs = [] := by
  apply List.eq_nil_iff_forall_not_mem.mpr
  intro a ha
  rw [Fingerprints.hasField_of_holds (isKnown_of_mem_again ha)] at h
  cases h

theorem among_deliver (r : Round) (fs : Fingerprints) :
    (among r.policy r.feed fs (isKnown r.feed fs) (fs.hasField r.feed) r.articles r.options
        r.now).deliver =
      ((r.again fs).filter (isRecent r.options r.now)).reverse ++
        ((r.admitted fs).filter (isRecent r.options r.now)).reverse := by
  simp only [among, List.reverse_append, List.filter_append, List.filter_reverse,
    List.filter_filter, Round.again, Round.admitted, Bool.and_comm]

theorem among_passed (r : Round) (fs : Fingerprints) :
    (among r.policy r.feed fs (isKnown r.feed fs) (fs.hasField r.feed) r.articles r.options
        r.now).passed = (r.again fs).length := by
  simp only [among, List.filter_filter, Round.again, Bool.and_comm]

/-- Either the articles are only stored, when none is known, or those are delivered that are let
through again or admitted. -/
theorem chosen_cases (r : Round) (fs : Fingerprints) :
    let selection := chosen r.policy r.feed fs r.articles r.options r.now
    selection.passed = (r.again fs).length ∧
      (selection.deliver = [] ∧ r.again fs = [] ∨
        selection.deliver = ((r.again fs).filter (isRecent r.options r.now)).reverse ++
          ((r.admitted fs).filter (isRecent r.options r.now)).reverse) := by
  intro selection
  rw [← among_deliver, ← among_passed]
  unfold selection chosen
  split
  · next he =>
      rw [List.isEmpty_iff.mp he]
      exact ⟨rfl, Or.inr rfl⟩
  · split
    · next hs =>
        have hnone : fs.hasField r.feed Article.identityField = false := by
          simpa using (Bool.and_eq_true_iff.mp hs).1
        rw [among_passed, again_eq_nil hnone]
        exact ⟨rfl, Or.inl ⟨rfl, rfl⟩⟩
    · exact ⟨rfl, Or.inr rfl⟩

/-- Two lists of which one passes a test and the other one fails it are parted again by the test. -/
theorem filter_append_eq {α : Type} {test : α → Bool} {xs ys : List α}
    (hx : ∀ x ∈ xs, test x = true) (hy : ∀ y ∈ ys, test y = false) :
    (xs ++ ys).filter test = xs ∧ (xs ++ ys).filter (!test ·) = ys := by
  rw [List.filter_append, List.filter_append]
  constructor
  · have hnone : ys.filter test = [] := by
      apply List.filter_eq_nil_iff.mpr
      intro y hmem
      simp [hy y hmem]
    rw [List.filter_eq_self.mpr hx, hnone, List.append_nil]
  · have hnone : xs.filter (!test ·) = [] := by
      apply List.filter_eq_nil_iff.mpr
      intro x hmem
      simp [hx x hmem]
    have hall : ys.filter (!test ·) = ys := by
      apply List.filter_eq_self.mpr
      intro y hmem
      simp [hy y hmem]
    rw [hnone, hall, List.nil_append]

/-- Of the known articles those are delivered that are let through and not too old. -/
theorem filter_isKnown_deliver (r : Round) (fs : Fingerprints) :
    (chosen r.policy r.feed fs r.articles r.options r.now).deliver.filter (isKnown r.feed fs) =
      ((r.again fs).filter (isRecent r.options r.now)).reverse := by
  obtain ⟨hdeliver, hagain⟩ | hdeliver := (chosen_cases r fs).2
  · rw [hdeliver, hagain]
    rfl
  · rw [hdeliver]
    refine (filter_append_eq ?_ ?_).1
    · intro a ha
      exact isKnown_of_mem_again (List.mem_of_mem_filter (List.mem_reverse.mp ha))
    · intro a ha
      exact isKnown_of_mem_admitted (List.mem_of_mem_filter (List.mem_reverse.mp ha))

theorem repeats_chosen (r : Round) (fs : Fingerprints) :
    r.Repeats fs (chosen r.policy r.feed fs r.articles r.options r.now) := by
  have hagain (a : Article) (ha : a ∈ r.articles) (hk : r.Knows fs a) :
      a ∈ r.again fs ↔ r.LetsThrough fs a := by
    simp [mem_again_iff, ha, hk]
  constructor
  · exact (chosen_cases r fs).1
  · exact filter_isKnown_deliver r fs
  · exact hagain
  · intro a ha hk
    rw [hagain a ha hk, letsThrough_iff]
    constructor
    · intro h hnews
      exact (h.mpr hnews).2
    · intro h
      exact ⟨And.left, fun hnews => ⟨hnews, h hnews⟩⟩

/-- What is true of the choice as a function of the fingerprints is true of what a round chooses. -/
theorem choosing_of_chosen {P : Selection → Prop} (r : Round) (w : World)
    (h : P (chosen r.policy r.feed w.stores.fingerprints r.articles r.options r.now)) :
    ∃ n, (∃ selection, carryOut r.around r.choosing w = (.ok selection, { w with calls := n }) ∧
        P selection) ∨
      r.around.Disturbed ∧
        ∃ o, carryOut r.around r.choosing w = (.error (.outage o), { w with calls := n }) := by
  obtain ⟨n, hc | hc⟩ := choose_asks r.policy r.feed r.articles r.options r.now r.around w
  · exact ⟨n, Or.inl ⟨_, hc, h⟩⟩
  · exact ⟨n, Or.inr hc⟩

/-- In every round the known articles that are let through are counted, and delivered unless they
are too old. They are those with an active passing field that is filled, and no passing field with a
value that is stored: news in one field is not enough where another one has not changed. -/
theorem passed_again_iff (r : Round) (w : World) :
    ∃ n, (∃ selection, carryOut r.around r.choosing w = (.ok selection, { w with calls := n }) ∧
        r.Repeats w.stores.fingerprints selection) ∨
      r.around.Disturbed ∧
        ∃ o, carryOut r.around r.choosing w = (.error (.outage o), { w with calls := n }) := by
  apply choosing_of_chosen
  exact repeats_chosen r w.stores.fingerprints

/-- An article of which the summary has changed and the title has not, where both are compared. -/
def halfChanged : Round where
  feed := "f"
  articles := [{ flattened := Fields.ofList [("idHash", "a"), ("title", "t"), ("summary", "2")] }]
  options := { passing := ["title", "summary"] }

/-- The stores after an earlier version of the article. -/
def halfChangedBefore : World where
  stores := { fingerprints := { rows :=
    [⟨"f", "idHash", "a", false, 0⟩, ⟨"f", "summary", Text.digest "1", true, 0⟩,
     ⟨"f", "title", Text.digest "t", true, 0⟩] } }

/-- The article has news, and is not let through. -/
theorem halfChanged_held_back :
    (carryOut {} halfChanged.choosing halfChangedBefore).1 = .ok {} ∧
      ∃ a ∈ halfChanged.articles, halfChanged.Knows halfChangedBefore.stores.fingerprints a ∧
        halfChanged.HasNews halfChangedBefore.stores.fingerprints a := by
  refine ⟨by decide +kernel, _, List.mem_singleton.mpr rfl, ?_, "summary", ?_⟩
  · unfold Round.Knows
    decide +kernel
  · exact ⟨by decide +kernel, by decide +kernel, "2", by decide +kernel, by decide +kernel⟩

end Newswire.Selection
