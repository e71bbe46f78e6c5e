import Newswire.Proofs.Run.Leases

/-!
# Tenure

Whoever has taken the lease of a feed keeps it, whatever others ask for, until it is given back, the
feed is deleted, or the lease has run out and somebody else takes it. Giving back what another holds
changes nothing. As both the present and the time that is asked for are rounded down to
milliseconds, a lease runs out a little before the end of its time.
-/

namespace Newswire.Leases

/-- What is asked about leases. -/
inductive Request where
  | acquire (feed holder : String) (now : Instant) (nanos : Nat)
  | release (feed holder : String)
  | delete (feed : String)
  deriving Repr, DecidableEq

namespace Request

/-- Whether anything comes of it, and the leases afterwards. -/
def answer (ls : Leases) : Request → Bool × Leases
  | acquire feed holder now nanos => ls.acquireFor feed holder now nanos
  | release feed holder => ls.release feed holder
  | delete feed =>
    let (n, ls) := ls.delete feed
    (n != 0, ls)

/-- The holder asks for the lease or gives it back, or the feed is deleted. -/
def concerns (feed holder : String) : Request → Bool
  | acquire f h _ _ | release f h => f == feed && h == holder
  | delete f => f == feed

end Request

/-- The leases after requests were answered one after the other. -/
def afterAll (ls : Leases) (rs : List Request) : Leases :=
  rs.foldl (fun ls r => (r.answer ls).2) ls

/-- Among the requests the holder did not take the lease again or give it back, and the feed was not
deleted. -/
def Spared (feed holder : String) (ls : Leases) (rs : List Request) : Prop :=
  ∀ pre r post, rs = pre ++ r :: post → r.concerns feed holder = true →
    (r.answer (ls.afterAll pre)).1 = false

/-- One of the requests gave the lease to another after it had run out. -/
def TakenOver (feed holder : String) (expires : Int) (ls : Leases) (rs : List Request) : Prop :=
  ∃ pre other now nanos post, rs = pre ++ .acquire feed other now nanos :: post ∧
    other ≠ holder ∧ .ofMillis expires ≤ now ∧
    ((ls.afterAll pre).acquireFor feed other now nanos).1 = true

/-- The holder has the lease of the feed. Others are refused before it runs out, and get it from
then on; they cannot give it back. -/
structure Held (feed holder : String) (expires : Int) (ls : Leases) : Prop where
  lease : ls.get? feed = some ⟨feed, holder, expires⟩
  refused : ∀ other ≠ holder, ∀ now < Instant.ofMillis expires, ∀ nanos,
    ls.acquireFor feed other now nanos = (false, ls)
  yielded : ∀ other ≠ holder, ∀ now ≥ Instant.ofMillis expires, ∀ nanos,
    (ls.acquireFor feed other now nanos).1 = true ∧
      (ls.acquireFor feed other now nanos).2.get? feed =
        some ⟨feed, other, expiryAfter now nanos⟩
  kept : ∀ other ≠ holder, ls.release feed other = (false, ls)

section Rounding

variable (now : Instant) (nanos : Nat)

theorem expiryAfter_le : (Instant.ofMillis (expiryAfter now nanos)).nanos ≤ now.nanos + nanos := by
  simp only [expiryAfter, Instant.ofMillis, Instant.millis]
  omega

/-- Less than two milliseconds are lost to a lease of which the time and its end can be told. -/
theorem lt_expiryAfter (htime : nanos ≤ (Instant.ofMillis lastMoment).nanos)
    (hend : now.nanos + nanos ≤ (Instant.ofMillis lastMoment).nanos) :
    now.nanos + nanos < (Instant.ofMillis (expiryAfter now nanos)).nanos + 2000000 := by
  simp only [expiryAfter, Instant.ofMillis, Instant.millis] at htime hend ⊢
  omega

end Rounding

variable {ls : Leases} {feed holder : String} {expires : Int}

/-- A lease is not given back by anyone but its holder. -/
theorem release_of_not_holder (h : ∀ l, ls.get? feed = some l → l.holder ≠ holder) :
    ls.release feed holder = (false, ls) := by
  unfold release
  cases hl : ls.get? feed with
  | none => rfl
  | some l => simp [h l hl]

theorem isFree_of_get? {l : Lease} (h : ls.get? feed = some l) (holder : String) (now : Instant) :
    ls.isFree feed holder now = (decide (l.expires ≤ now.millis) || l.holder == holder) := by
  rw [isFree, h]

theorem held_of_get? (h : ls.get? feed = some ⟨feed, holder, expires⟩) :
    Held feed holder expires ls where
  lease := h
  refused other ho now hn nanos := by
    apply acquireFor_of_not_free
    have hmillis : now.millis < expires := Instant.millis_lt.mpr hn
    rw [isFree_of_get? h]
    simp [hmillis, Ne.symm ho]
  yielded other ho now hn nanos := by
    have hf : ls.isFree feed other now = true := by
      have hmillis : expires ≤ now.millis := Instant.le_millis.mpr hn
      rw [isFree_of_get? h]
      simp [hmillis]
    constructor
    · rw [acquireFor_granted, hf]
    · rw [acquireFor_get?, if_pos hf]
  kept other ho := by
    apply release_of_not_holder
    intro l hl
    obtain rfl : l = ⟨feed, holder, expires⟩ := Option.some.inj (hl.symm.trans h)
    exact Ne.symm ho

/-- Whoever is granted the lease of a feed holds it. -/
theorem held_of_acquireFor {now : Instant} {nanos : Nat}
    (h : (ls.acquireFor feed holder now nanos).1 = true) :
    Held feed holder (expiryAfter now nanos) (ls.acquireFor feed holder now nanos).2 := by
  rw [acquireFor_granted] at h
  apply held_of_get?
  rw [acquireFor_get?, if_pos h]

theorem delete_pos {l : Lease} (h : ls.get? feed = some l) : (ls.delete feed).1 ≠ 0 := by
  have hfeed := List.find?_some h
  have hl : l ∈ ls.rows.filter (·.feed == feed) :=
    List.mem_filter.mpr ⟨List.mem_of_find?_eq_some h, hfeed⟩
  exact Nat.pos_iff_ne_zero.mp (List.length_pos_of_mem hl)

/-- One request leaves the lease with its holder, unless it is the holder's own, deletes the feed,
or comes from another after the lease has run out. -/
theorem Held.answer (h : Held feed holder expires ls) {r : Request}
    (hr : r.concerns feed holder = true → (r.answer ls).1 = false) :
    (∃ other now nanos, r = .acquire feed other now nanos ∧ other ≠ holder ∧
        .ofMillis expires ≤ now) ∨
      Held feed holder expires (r.answer ls).2 := by
  cases r with
  | acquire f other now nanos =>
      by_cases hf : f = feed
      · subst hf
        by_cases ho : other = holder
        · subst ho
          have hfree : ls.isFree f other now = false := by
            rw [← ls.acquireFor_granted]
            exact hr (by simp [Request.concerns])
          right
          rwa [Request.answer, acquireFor_of_not_free hfree]
        · by_cases hn : .ofMillis expires ≤ now
          · exact Or.inl ⟨other, now, nanos, rfl, ho, hn⟩
          · right
            rwa [Request.answer, h.refused other ho now (Int.not_le.mp hn)]
      · right
        apply held_of_get?
        rw [Request.answer, ls.acquireFor_get?_of_ne other now nanos (Ne.symm hf)]
        exact h.lease
  | release f other =>
      right
      by_cases hf : f = feed
      · subst hf
        by_cases ho : other = holder
        · subst ho
          have hrefused := hr (by simp [Request.concerns])
          rw [Request.answer, release, h.lease] at hrefused
          simp at hrefused
        · rwa [Request.answer, h.kept other ho]
      · apply held_of_get?
        rw [Request.answer, ls.release_get?_of_ne other (Ne.symm hf)]
        exact h.lease
  | delete f =>
      right
      by_cases hf : f = feed
      · subst hf
        have hnone := hr (by simp [Request.concerns])
        have hpos := delete_pos h.lease
        simp [Request.answer, hpos] at hnone
      · apply held_of_get?
        exact (ls.get?_without_of_ne (Ne.symm hf)).trans h.lease

/-- The lease stays with its holder through any requests, until another takes it after it has run
out. -/
theorem Held.afterAll (h : Held feed holder expires ls) {rs : List Request}
    (hs : Spared feed holder ls rs) :
    TakenOver feed holder expires ls rs ∨ Held feed holder expires (ls.afterAll rs) := by
  induction rs generalizing ls with
  | nil => exact Or.inr h
  | cons r rest ih =>
      obtain ⟨other, now, nanos, rfl, ho, hn⟩ | hnext := h.answer (hs [] r rest rfl)
      · exact Or.inl ⟨[], other, now, nanos, rest, rfl, ho, hn, (h.yielded other ho now hn _).1⟩
      · have hrest : Spared feed holder (r.answer ls).2 rest :=
          fun pre r' post hsplit => hs (r :: pre) r' post (congrArg (r :: ·) hsplit)
        obtain ⟨pre, other, now, nanos, post, rfl, htaken⟩ | hheld := ih hnext hrest
        · exact Or.inl ⟨r :: pre, other, now, nanos, post, rfl, htaken⟩
        · exact Or.inr hheld

end Newswire.Leases
