import Newswire.Proofs.Quota.Ledger
import Newswire.Proofs.Quota.Notebook
import Newswire.Proofs.Quota.Requests

/-!
# Windows that slide

A limit is looked at when a reservation is made, and for the window that ends with it. The
reservations that are there at any time keep to it in every window, whatever clock they were made
by: the last of those in a window to be made has counted all the others. A reservation lies at the
instant that its keeper has written down, which for a ledger is that of the clock rounded down.
-/

namespace Newswire.Quota

/-- How many of the times are within the seconds that end at `t`. -/
def inWindow (seconds : Nat) (t : Instant) (times : List Instant) : Nat :=
  times.countP fun x => t.ago (seconds * 1000) < x && x ≤ t

/-- No window of the length holds more than `most` of the times. -/
def Bounded (seconds most : Nat) (times : List Instant) : Prop :=
  ∀ t, inWindow seconds t times ≤ most

namespace Bounded

variable {seconds most : Nat} {times rest : List Instant} {now : Instant}

theorem nil (seconds most : Nat) : Bounded seconds most [] := fun _ => Nat.zero_le _

theorem sublist (h : Bounded seconds most times) (hs : rest.Sublist times) :
    Bounded seconds most rest := fun t => Nat.le_trans hs.countP_le (h t)

/-- The last time counts in the windows that it is in, and there it sees all of them. -/
theorem concat (h : Bounded seconds most times)
    (hlast : (times ++ [now]).countP (now.ago (seconds * 1000) < ·) ≤ most) :
    Bounded seconds most (times ++ [now]) := by
  intro t
  by_cases hin : t.ago (seconds * 1000) < now ∧ now ≤ t
  · refine Nat.le_trans (List.countP_mono_left fun x _ hx => ?_) hlast
    simp only [Bool.and_eq_true, decide_eq_true_eq] at hx ⊢
    exact Int.lt_of_le_of_lt (Int.sub_le_sub_right hin.2 _) hx.1
  · have hnow : inWindow seconds t [now] = 0 := by simpa [inWindow] using hin
    rw [inWindow, List.countP_append, ← inWindow, ← inWindow, hnow, Nat.add_zero]
    exact h t

end Bounded

/-- The times of the reservations of a feed, or of one of its connections. -/
abbrev Times := String → Option String → List Instant

/-- What an answer does to the reservations that are there: some of them go, or one more is made,
written down with an instant within its day, and the windows that end with that hold no more than
its limits say. -/
inductive Change (q : Request) (times times' : Times) : Prop where
  | fewer (h : ∀ feed through, (times' feed through).Sublist (times feed through))
  | made (feed connection : String) (limits : Limits) (now written : Instant)
      (hq : q = .reserve feed connection limits now) (hwritten : dayStart now < written)
      (htimes : ∀ other through, times' other through = times other through ++
        if feed = other ∧ through.all (connection == ·) = true then [written] else [])
      (hday : (times' feed none).countP (dayStart written < ·) ≤ limits.daily)
      (hconnection : ∀ l ∈ limits.connection,
        (times' feed (some connection)).countP (l.start written < ·) ≤ l.limit)

/-- Every one of the times can be told. -/
def Told (times : Times) : Prop :=
  ∀ feed through, ∀ x ∈ times feed through, RateLimit.firstMoment < x

namespace Change

variable {q : Request} {times times' : Times} {feed connection : String} {seconds most : Nat}

theorem same (q : Request) (times : Times) : Change q times times :=
  .fewer fun _ _ => List.Sublist.refl _

theorem told (h : Change q times times') (hq : q.IsTimely) (ht : Told times) : Told times' := by
  intro feed through x hx
  cases h with
  | fewer h => exact ht feed through x ((h feed through).mem hx)
  | made other connection limits now written hreserve hwritten htimes hday hconnection =>
      rw [htimes, List.mem_append] at hx
      rcases hx with hx | hx
      · exact ht feed through x hx
      · split at hx
        · obtain rfl := List.mem_singleton.mp hx
          exact Int.lt_of_le_of_lt (isTimely_reserve.mp (hreserve ▸ hq)) hwritten
        · exact absurd hx List.not_mem_nil

theorem bounded_day (h : Change q times times')
    (hq : ∀ connection limits now, q = .reserve feed connection limits now → limits.daily ≤ most)
    (hb : Bounded RateLimit.daySeconds most (times feed none)) :
    Bounded RateLimit.daySeconds most (times' feed none) := by
  cases h with
  | fewer h => exact hb.sublist (h feed none)
  | made other connection limits now written hreserve hwritten htimes hday hconnection =>
      by_cases hf : other = feed
      · subst hf
        have hlast := Nat.le_trans hday (hq connection limits now hreserve)
        rw [htimes, if_pos ⟨rfl, rfl⟩] at hlast ⊢
        exact hb.concat hlast
      · rw [htimes, if_neg fun h => hf h.1, List.append_nil]
        exact hb

theorem bounded_connection (h : Change q times times') (htimely : q.IsTimely) (ht : Told times)
    (hq : ∀ limits now, q = .reserve feed connection limits now →
      ∃ l ∈ limits.connection, l.seconds = seconds ∧ l.limit ≤ most)
    (hb : Bounded seconds most (times feed (some connection))) :
    Bounded seconds most (times' feed (some connection)) := by
  have ht' := h.told htimely ht
  cases h with
  | fewer h => exact hb.sublist (h feed (some connection))
  | made other through limits now written hreserve hwritten htimes hday hconnection =>
      by_cases hf : other = feed ∧ through = connection
      · obtain ⟨rfl, rfl⟩ := hf
        obtain ⟨l, hl, rfl, hmost⟩ := hq limits now hreserve
        have hlast := Nat.le_trans (hconnection l hl) hmost
        -- A window that would start before all time counts the same.
        have hcount : (times' other (some through)).countP (l.start written < ·) =
            (times' other (some through)).countP (written.ago (l.seconds * 1000) < ·) :=
          List.countP_congr fun x hx => by
            simpa using RateLimit.lt_start_iff (ht' other (some through) x hx)
        rw [hcount, htimes, if_pos ⟨rfl, by simp⟩] at hlast
        rw [htimes, if_pos ⟨rfl, by simp⟩]
        exact hb.concat hlast
      · rw [htimes, if_neg fun h => hf (by simpa using h), List.append_nil]
        exact hb

end Change

/-- A keeper that changes its reservations in no other way, as long as it is in order. -/
structure Careful {σ : Type} (answer : σ → Request → Answer × σ) (times : σ → Times)
    (InOrder : σ → Prop) : Prop where
  inOrder : ∀ s q, InOrder s → InOrder (answer s q).2
  change : ∀ s q, InOrder s → Change q (times s) (times (answer s q).2)

namespace Careful

variable {σ : Type} {answer : σ → Request → Answer × σ} {times : σ → Times} {InOrder : σ → Prop}
  {s : σ} {qs : List Request} {feed connection : String} {seconds most : Nat}

theorem bounded_day (h : Careful answer times InOrder) (hs : InOrder s)
    (hnone : ∀ feed through, times s feed through = [])
    (hqs : ∀ connection limits now, .reserve feed connection limits now ∈ qs →
      limits.daily ≤ most) :
    Bounded RateLimit.daySeconds most (times (afterwards answer s qs) feed none) := by
  let Kept (s : σ) : Prop :=
    InOrder s ∧ Bounded RateLimit.daySeconds most (times s feed none)
  have hstart : Kept s := ⟨hs, hnone feed none ▸ Bounded.nil _ _⟩
  refine (afterwards_of_step answer hstart ?_ : Kept _).2
  rintro s q hq ⟨hs, hb⟩
  refine ⟨h.inOrder s q hs, (h.change s q hs).bounded_day ?_ hb⟩
  intro connection limits now hreserve
  exact hqs connection limits now (hreserve ▸ hq)

theorem bounded_connection (h : Careful answer times InOrder) (hs : InOrder s)
    (hnone : ∀ feed through, times s feed through = []) (htimely : ∀ q ∈ qs, q.IsTimely)
    (hqs : ∀ limits now, .reserve feed connection limits now ∈ qs →
      ∃ l ∈ limits.connection, l.seconds = seconds ∧ l.limit ≤ most) :
    Bounded seconds most (times (afterwards answer s qs) feed (some connection)) := by
  let Kept (s : σ) : Prop :=
    InOrder s ∧ Told (times s) ∧ Bounded seconds most (times s feed (some connection))
  have hstart : Kept s := by
    refine ⟨hs, fun other through x hx => ?_, hnone feed (some connection) ▸ Bounded.nil _ _⟩
    rw [hnone] at hx
    exact absurd hx List.not_mem_nil
  refine (afterwards_of_step answer hstart ?_ : Kept _).2.2
  rintro s q hq ⟨hs, ht, hb⟩
  have hchange := h.change s q hs
  refine ⟨h.inOrder s q hs, hchange.told (htimely q hq) ht, ?_⟩
  refine hchange.bounded_connection (htimely q hq) ht ?_ hb
  intro limits now hreserve
  exact hqs limits now (hreserve ▸ hq)

end Careful

namespace Notebook

variable {b b' : Notebook}

def times (b : Notebook) : Times :=
  fun feed through => ((b.page feed).entries.filter (Page.concerns through)).map Entry.time

theorem count_eq (b : Notebook) (feed : String) (through : Option String) (since : Instant) :
    b.count feed through since = (b.times feed through).countP (since < ·) := by
  rw [times, List.countP_map, List.countP_filter, List.countP_eq_length_filter]
  rfl

theorem times_sublist (h : ∀ feed, (b'.page feed).entries.Sublist (b.page feed).entries)
    (feed : String) (through : Option String) :
    (b'.times feed through).Sublist (b.times feed through) :=
  ((h feed).filter _).map _

theorem times_enter (b : Notebook) (feed connection : String) (now : Instant) (other : String)
    (through : Option String) :
    (b.enter feed connection now).times other through = b.times other through ++
      if feed = other ∧ through.all (connection == ·) = true then [now] else [] := by
  rw [times, times, page_enter]
  by_cases hf : feed = other
  · rw [if_pos hf, List.filter_append, List.map_append]
    by_cases hc : through.all (connection == ·) = true <;> simp [hf, hc, Page.concerns]
  · rw [if_neg hf, if_neg fun h => hf h.1, List.append_nil]

theorem careful : Careful answer times Distinct where
  inOrder _ q hb := hb.answer q
  change b q hb := by
    cases q with
    | reserve feed connection limits now =>
        rw [answer]
        obtain ⟨hday, hconnection, hr⟩ | ⟨d, -, hr⟩ := b.reserve_cases feed connection limits now
        · rw [hr]
          refine .made feed connection limits now now rfl (dayStart_lt now)
            (b.times_enter feed connection now) ?_ ?_
          · rw [count_eq] at hday
            rw [times_enter, if_pos ⟨rfl, rfl⟩, List.countP_append]
            exact Nat.le_trans (Nat.add_le_add_left List.countP_le_length _) hday
          · intro l hl
            have hroom := hconnection l hl
            rw [count_eq] at hroom
            rw [times_enter, if_pos ⟨rfl, by simp⟩, List.countP_append]
            exact Nat.le_trans (Nat.add_le_add_left List.countP_le_length _) hroom
        · rw [hr]
          refine .fewer (times_sublist fun other => ?_)
          rw [page_put_page]
    | release id =>
        refine .fewer (times_sublist fun feed => ?_)
        rw [answer, release, page_keep]
        exact List.filter_sublist
    | count feed through since => exact .same _ _
    | remaining feed daily now => exact .same _ _
    | prune before =>
        refine .fewer (times_sublist fun feed => ?_)
        rw [answer, prune, page_filter_nonempty (hb.keep _), page_keep]
        exact List.filter_sublist
    | purge feed =>
        refine .fewer (times_sublist fun other => ?_)
        rw [answer, page_purge]
        split
        · exact List.nil_sublist _
        · exact List.Sublist.refl _

end Notebook

namespace Ledger

variable {g : Ledger}

/-- The instants that are read back from the rows. -/
def times (g : Ledger) : Times :=
  fun feed through => (g.rows.filter (concerns feed through)).map fun r => .ofMillis r.time

theorem countSince_eq (g : Ledger) (feed : String) (through : Option String) (since : Instant) :
    g.countSince feed through since.millis = (g.times feed through).countP (since.stored < ·) := by
  rw [times, List.countP_map, List.countP_filter, List.countP_eq_length_filter, countSince]
  refine congrArg List.length (List.filter_congr fun r _ => ?_)
  have hlt : since.millis < r.time ↔ since.stored < .ofMillis r.time := by
    rw [← Instant.millis_lt, Instant.stored, Instant.millis_ofMillis]
  rw [decide_eq_decide.mpr hlt]
  exact Bool.and_comm ..

theorem times_filter (g : Ledger) (test : Reservation → Bool) (feed : String)
    (through : Option String) :
    (times { g with rows := g.rows.filter test } feed through).Sublist (g.times feed through) :=
  (List.filter_sublist.filter _).map _

theorem times_enter (g : Ledger) (feed connection : String) (now : Instant) (other : String)
    (through : Option String) :
    (g.enter feed connection now.millis).times other through = g.times other through ++
      if feed = other ∧ through.all (connection == ·) = true then [now.stored] else [] := by
  rw [times, times, enter, List.filter_append, List.map_append]
  by_cases hf : feed = other <;> by_cases hc : through.all (connection == ·) = true <;>
    simp [hf, hc, concerns, Instant.stored]

/-- Where a delivery is allowed, the connection keeps to its limits in the windows that end with
it. -/
theorem countSince_le_of_allowed {feed connection : String} {limits : Limits} {now : Instant}
    (h : (g.reserve feed connection limits now).1 = .allowed (g.last + 1)) {l : RateLimit}
    (hl : l ∈ limits.connection) :
    (g.enter feed connection now.millis).countSince feed (some connection) (l.start now).millis ≤
      l.limit := by
  rw [reserve] at h
  split at h
  · cases h
  · let entered := g.enter feed connection now.millis
    cases he : entered.exceeded feed connection now limits.connection with
    | some l =>
        rw [he] at h
        cases h
    | none =>
        have hroom := List.find?_eq_none.mp he l hl
        exact Nat.le_of_not_lt fun hover => hroom (decide_eq_true hover)

theorem careful : Careful answer times fun _ => True where
  inOrder _ _ h := h
  change g q _ := by
    cases q with
    | reserve feed connection limits now =>
        rw [answer]
        obtain hr | ⟨d, -, hr⟩ := g.reserve_cases feed connection limits now
        · have hallowed := congrArg Prod.fst hr
          rw [hr]
          refine .made feed connection limits now now.stored rfl ?_
            (g.times_enter feed connection now) ?_ ?_
          · exact Instant.millis_lt.mp (millis_dayStart_lt now)
          · obtain ⟨-, -, hday⟩ := countSince_of_allowed hallowed
            rw [countSince_eq] at hday
            rw [dayStart_stored]
            exact hday
          · intro l hl
            have hroom := countSince_le_of_allowed hallowed hl
            rw [countSince_eq] at hroom
            rw [RateLimit.start_stored]
            exact hroom
        · rw [hr]
          exact .same _ _
    | release id => exact .fewer (g.times_filter _)
    | count feed through since => exact .same _ _
    | remaining feed daily now => exact .same _ _
    | prune before => exact .fewer (g.times_filter _)
    | purge feed => exact .fewer (g.times_filter _)

end Ledger

/-- However often and by whatever clock reservations are asked for, given back, pruned and purged:
where no reservation of a feed is made under a higher limit of a day, no day holds more of those
that are there, and where all of a connection are made under a limit, no window of its length holds
more than it says. -/
theorem windows_kept {qs : List Request} (htimely : ∀ q ∈ qs, q.IsTimely) (feed : String) :
    (∀ daily, (∀ connection limits now, .reserve feed connection limits now ∈ qs →
        limits.daily ≤ daily) →
      Bounded RateLimit.daySeconds daily ((afterwards Notebook.answer {} qs).times feed none) ∧
        Bounded RateLimit.daySeconds daily ((afterwards Ledger.answer {} qs).times feed none)) ∧
    ∀ connection seconds most, (∀ limits now, .reserve feed connection limits now ∈ qs →
        ∃ l ∈ limits.connection, l.seconds = seconds ∧ l.limit ≤ most) →
      Bounded seconds most ((afterwards Notebook.answer {} qs).times feed (some connection)) ∧
        Bounded seconds most ((afterwards Ledger.answer {} qs).times feed (some connection)) := by
  have hnotebook : ∀ feed through, Notebook.times {} feed through = [] := fun _ _ => rfl
  have hledger : ∀ feed through, Ledger.times {} feed through = [] := fun _ _ => rfl
  constructor
  · intro daily hqs
    constructor
    · exact Notebook.careful.bounded_day Notebook.distinct_empty hnotebook hqs
    · exact Ledger.careful.bounded_day trivial hledger hqs
  · intro connection seconds most hqs
    constructor
    · exact Notebook.careful.bounded_connection Notebook.distinct_empty hnotebook htimely hqs
    · exact Ledger.careful.bounded_connection trivial hledger htimely hqs

/-- Reservations by a clock that goes back. The third is refused, and the first is given back. -/
def wandering : List Request :=
  let limits : Limits := { daily := 3, connection := [{ id := "w", window := 2, limit := 2 }] }
  [.reserve "f" "c" limits (.ofMillis 5000), .reserve "f" "c" limits ⟨3000000001⟩,
    .reserve "f" "c" limits (.ofMillis 4500), .release 1, .reserve "f" "c" limits ⟨4000999999⟩,
    .prune (.ofMillis 2000)]

theorem windows_kept_wandering :
    (afterwards Ledger.answer {} wandering).times "f" (some "c") =
        [.ofMillis 3000, .ofMillis 4000] ∧
      Bounded RateLimit.daySeconds 3 ((afterwards Notebook.answer {} wandering).times "f" none) ∧
      Bounded 2 2 ((afterwards Ledger.answer {} wandering).times "f" (some "c")) := by
  have htimely : ∀ q ∈ wandering, q.IsTimely := by decide
  obtain ⟨hday, hconnection⟩ := windows_kept htimely "f"
  refine ⟨by decide, (hday 3 ?_).1, (hconnection "c" 2 2 ?_).2⟩
  · intro connection limits now h
    simp only [wandering, List.mem_cons, Request.reserve.injEq, List.not_mem_nil, reduceCtorEq] at h
    grind
  · intro limits now h
    simp only [wandering, List.mem_cons, Request.reserve.injEq, List.not_mem_nil, reduceCtorEq] at h
    refine ⟨{ id := "w", window := 2, limit := 2 }, ?_, rfl, Nat.le_refl 2⟩
    grind

end Newswire.Quota
