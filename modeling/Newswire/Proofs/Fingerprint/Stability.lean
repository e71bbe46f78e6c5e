import Newswire.Proofs.Fingerprint.Rounds

/-!
# Giving the same articles again

When the articles of a round that was committed are given again, there is nothing more to store of
them. Only an article whose own identity is a passing field may be delivered again: the identity is
stored as it is, but looked up in the form in which other values are kept.
-/

namespace Newswire.Selection

/-- The article may be delivered again: its own identity, and no other passing field, is filled, and
of the identity that form is not stored in which values are looked up. -/
structure Round.Reappears (r : Round) (fs : Fingerprints) (a : Article) : Prop where
  compared : Article.identityField ∈ r.options.passing
  others : ∀ name ∈ r.options.passing, name ≠ Article.identityField → a.filled? name = none
  unstored : ∃ hash, a.filled? Article.identityField = some hash ∧
    fs.holds r.feed Article.identityField (r.policy.kept hash).1 = false ∧
    ∀ b ∈ r.articles, b.identity ≠ (r.policy.kept hash).1

variable {r : Round} {fs : Fingerprints} {a : Article} {w : World}

theorem isChanged_fingerprints_iff (ha : a ∈ r.articles) :
    isChanged r.policy r.feed (r.fingerprints fs)
        (r.options.passing.filter ((r.fingerprints fs).hasField r.feed)) a = true ↔
      r.Reappears fs a := by
  have hstored (hash : String) :
      (r.fingerprints fs).holds r.feed Article.identityField hash = false ↔
        fs.holds r.feed Article.identityField hash = false ∧
          ∀ b ∈ r.articles, b.identity ≠ hash := by
    rw [← Bool.not_eq_true, Round.fingerprints, holds_identity_storedAfter_iff]
    simp
  refine (isChanged_storedAfter_iff ha).trans ?_
  constructor
  · rintro ⟨hcompared, hothers, hash, hv, hh⟩
    exact ⟨hcompared, hothers, hash, hv, (hstored _).mp hh⟩
  · rintro ⟨hcompared, hothers, hash, hv, hh⟩
    exact ⟨hcompared, hothers, hash, hv, (hstored _).mpr hh⟩

theorem mem_deliver_again_iff (r : Round) (fs : Fingerprints) (later : Instant) (a : Article) :
    a ∈ (chosen r.policy r.feed (r.fingerprints fs) r.articles r.options later).deliver ↔
      a ∈ r.articles ∧ isRecent r.options later a = true ∧ r.Reappears fs a := by
  rw [Round.fingerprints, (chosen_again later).1, List.mem_filter, List.mem_reverse,
    List.mem_filter]
  constructor
  · rintro ⟨⟨ha, hc⟩, hrecent⟩
    exact ⟨ha, hrecent, (isChanged_fingerprints_iff ha).mp hc⟩
  · rintro ⟨ha, hrecent, hagain⟩
    exact ⟨⟨ha, (isChanged_fingerprints_iff ha).mpr hagain⟩, hrecent⟩

/-- An article does not reappear when its identity is kept as it is. -/
theorem not_reappears_of_plain (ha : a ∈ r.articles)
    (plain : ∀ hash, a.filled? Article.identityField = some hash → (r.policy.kept hash).1 = hash) :
    ¬r.Reappears fs a := by
  rintro ⟨-, -, hash, hv, -, hne⟩
  apply hne a ha
  rw [plain hash hv, identity_of_filled hv]

theorem fingerprints_after (h : r.isCommitted w = true) :
    (r.after w).stores.fingerprints = r.fingerprints w.stores.fingerprints := by
  unfold Round.isCommitted at h
  unfold Round.after
  obtain ⟨n, hc | ⟨-, o, hc⟩⟩ := round_cases r w
  · rw [hc]
  · rw [hc] at h
    cases h

/-- After a round that was committed the same articles are compared again, at any time: nothing more
is to be stored, and those that are recent and reappear are delivered, but no others. -/
theorem compared_again (r : Round) (w : World) (h : r.isCommitted w = true) (later : Instant)
    (around : Surroundings) :
    let again : Round := { r with now := later, around }
    let v := r.after w
    ∃ n, (∃ selection, carryOut around again.choosing v = (.ok selection, { v with calls := n }) ∧
        selection.pending = [] ∧
        ∀ a, a ∈ selection.deliver ↔
          a ∈ r.articles ∧ isRecent r.options later a = true ∧
            r.Reappears w.stores.fingerprints a) ∨
      around.Disturbed ∧
        ∃ o, carryOut around again.choosing v = (.error (.outage o), { v with calls := n }) := by
  intro again v
  obtain ⟨n, hc | hc⟩ := choose_asks r.policy r.feed r.articles r.options later around v
  · have hstored : v.stores.fingerprints = r.fingerprints w.stores.fingerprints :=
      fingerprints_after h
    refine ⟨n, Or.inl ⟨_, hc, ?_⟩⟩
    dsimp only
    rw [hstored]
    constructor
    · exact pending_again later
    · exact mem_deliver_again_iff r _ later
  · exact ⟨n, Or.inr hc⟩

/-- An article that brings its identity, where identities are compared. -/
def identified (hash : String) (policy : Fingerprint.Policy) : Round where
  feed := "f"
  articles := [{ flattened := Fields.ofList [(Article.identityField, hash)] }]
  policy := policy
  options := { passing := [Article.identityField] }

/-- Where values are kept as they are, the article is not delivered again. -/
theorem compared_again_identified :
    let r := identified "x" { digests := false }
    r.isCommitted {} = true ∧
      ∃ n selection,
        carryOut {} r.choosing (r.after {}) = (.ok selection, { r.after {} with calls := n }) ∧
          selection.pending = [] ∧ selection.deliver = [] := by
  intro r
  have hcommitted : r.isCommitted {} = true := by decide +kernel
  have hplain : ∀ a ∈ r.articles, ∀ hash, a.filled? Article.identityField = some hash →
      (r.policy.kept hash).1 = hash := by
    intro a ha hash hv
    obtain rfl := List.mem_singleton.mp ha
    obtain rfl : "x" = hash := Option.some.inj ((by decide +kernel : _ = some "x").symm.trans hv)
    decide +kernel
  refine ⟨hcommitted, ?_⟩
  obtain ⟨n, ⟨selection, hc, hpending, hdeliver⟩ | ⟨⟨k, kind, hd⟩, -⟩⟩ :=
    compared_again r {} hcommitted ⟨0⟩ {}
  · refine ⟨n, selection, hc, hpending, List.eq_nil_iff_forall_not_mem.mpr fun a ha => ?_⟩
    obtain ⟨hmem, -, hagain⟩ := (hdeliver a).mp ha
    exact not_reappears_of_plain hmem (hplain a hmem) hagain
  · exact absurd rfl hd

/-- Where values are kept as digests it is, with nothing to store of it. -/
theorem identified_delivered_twice :
    let r := identified "x" {}
    r.isCommitted {} = true ∧ r.articles ≠ [] ∧
      (carryOut {} r.choosing (r.after {})).1 = .ok { deliver := r.articles, passed := 1 } := by
  decide +kernel

end Newswire.Selection
