import Mathlib.Data.List.Basic
import Newswire.Quota.Ledger

/-!
# Keeping to the limits of a day

A delivery is entered only where the feed has room for it on the day that ends with it. Deliveries
that stay entered therefore keep to the limit on every day, whatever clock the runs go by: the last
of them to be entered has counted all the others. This is so of the times that are entered, which
are those of the clock rounded down to milliseconds.
-/

namespace Newswire.Quota

/-- How many of the times are within the day that ends at `t`. -/
def inDay (t : Instant) (times : List Instant) : Nat :=
  times.countP fun x => dayStart t < x && x ≤ t

theorem millis_dayStart (now : Instant) :
    (dayStart now).millis = now.millis - RateLimit.daySeconds * 1000 := now.millis_ago _

theorem millis_dayStart_lt (now : Instant) : (dayStart now).millis < now.millis := by
  rw [millis_dayStart, RateLimit.daySeconds]
  omega

/-- A stored time is within a day exactly if it is so in whole milliseconds. -/
theorem ofMillis_inDay_iff {t : Instant} {x : Int} :
    dayStart t < .ofMillis x ∧ .ofMillis x ≤ t ↔ (dayStart t).millis < x ∧ x ≤ t.millis := by
  rw [Instant.millis_lt, Instant.le_millis]

/-- Times that lie within a millisecond less than a day are stored within a day. -/
theorem countP_le_inDay_stored (t : Instant) (times : List Instant) :
    times.countP (fun x => t.ago 86399999 ≤ x && x ≤ t) ≤
      inDay t.stored (times.map Instant.stored) := by
  rw [inDay, List.countP_map]
  refine List.countP_mono_left fun x _ hx => ?_
  simp only [Bool.and_eq_true, decide_eq_true_eq] at hx
  have hearly := Instant.millis_mono hx.1
  have hlate := Instant.millis_mono hx.2
  rw [Instant.millis_ago] at hearly
  have hin : dayStart t.stored < x.stored ∧ x.stored ≤ t.stored := by
    rw [Instant.stored, Instant.stored, ofMillis_inDay_iff, millis_dayStart,
      Instant.millis_ofMillis, RateLimit.daySeconds]
    omega
  simpa using hin

namespace Ledger

variable {g : Ledger} {feed connection : String} {now : Instant} {limits : Limits} {daily : Nat}
  {times : List Instant}

/-- No reservation has a number that is still to be given out. -/
def Numbered (g : Ledger) : Prop := ∀ x ∈ g.rows, x.id ≤ g.last

theorem numbered_empty : Numbered {} := fun _ hx => nomatch hx

/-- A delivery is entered when it is allowed, and a refusal leaves the ledger as it was. -/
theorem reserve_cases (g : Ledger) (feed connection : String) (limits : Limits) (now : Instant) :
    g.reserve feed connection limits now =
        (.allowed (g.last + 1), g.enter feed connection now.millis) ∨
      ∃ d, (∀ id, d ≠ .allowed id) ∧ g.reserve feed connection limits now = (d, g) := by
  unfold reserve
  dsimp only
  split
  · exact Or.inr ⟨.dayExceeded, by simp, rfl⟩
  · cases (g.enter feed connection now.millis).exceeded feed connection now limits.connection with
    | some l => exact Or.inr ⟨.limitExceeded l.id, by simp, rfl⟩
    | none => exact Or.inl rfl

theorem countSince_enter (g : Ledger) (feed connection : String) (now : Int) (other : String)
    (through : Option String) (since : Int) :
    (g.enter feed connection now).countSince other through since =
      g.countSince other through since +
        if feed = other ∧ through.all (connection == ·) = true ∧ since < now then 1 else 0 := by
  simp only [countSince, enter, List.filter_append, List.length_append]
  by_cases h : feed = other ∧ through.all (connection == ·) = true ∧ since < now
  · simp [concerns, h]
  · rw [if_neg h]
    have hn : (concerns other through ⟨g.last + 1, feed, connection, now⟩ && since < now) =
        false := by
      by_contra hc
      exact h (by simpa [concerns, and_assoc] using hc)
    simp [hn]

/-- A delivery counts for its feed from any earlier moment on. -/
theorem countSince_enter_of_lt {since now : Int} (h : since < now) (g : Ledger)
    (feed connection : String) :
    (g.enter feed connection now).countSince feed none since = g.countSince feed none since + 1 := by
  rw [countSince_enter, if_pos ⟨rfl, rfl, h⟩]

/-- What is said to a delivery depends on the counts of its feed and of its connection alone. -/
theorem reserve_alike (limits : Limits) {g g' : Ledger}
    (hday : limits.daily < g.countSince feed none (dayStart now).millis + 1 ↔
      limits.daily < g'.countSince feed none (dayStart now).millis + 1)
    (hconnection : ∀ since,
      g.countSince feed (some connection) since = g'.countSince feed (some connection) since) :
    (g.reserve feed connection limits now =
        (.allowed (g.last + 1), g.enter feed connection now.millis) ∧
      g'.reserve feed connection limits now =
        (.allowed (g'.last + 1), g'.enter feed connection now.millis)) ∨
    ∃ d, (∀ id, d ≠ .allowed id) ∧ g.reserve feed connection limits now = (d, g) ∧
      g'.reserve feed connection limits now = (d, g') := by
  let entered (g : Ledger) : Ledger := g.enter feed connection now.millis
  have hexceeded : (entered g).exceeded feed connection now limits.connection =
      (entered g').exceeded feed connection now limits.connection := by
    simp only [entered, exceeded, countSince_enter, hconnection]
  unfold reserve
  dsimp only
  rw [countSince_enter_of_lt (millis_dayStart_lt now), countSince_enter_of_lt
    (millis_dayStart_lt now), hexceeded]
  by_cases hd : limits.daily < g.countSince feed none (dayStart now).millis + 1
  · rw [if_pos hd, if_pos (hday.mp hd)]
    exact Or.inr ⟨.dayExceeded, by simp, rfl, rfl⟩
  · rw [if_neg hd, if_neg fun h => hd (hday.mpr h)]
    cases (entered g').exceeded feed connection now limits.connection with
    | some l => exact Or.inr ⟨.limitExceeded l.id, by simp, rfl, rfl⟩
    | none => exact Or.inl ⟨rfl, rfl⟩

/-- Where a delivery is allowed, the feed keeps to its limit on the day that ends with it. -/
theorem countSince_of_allowed {id : Nat}
    (h : (g.reserve feed connection limits now).1 = .allowed id) :
    id = g.last + 1 ∧
      (g.reserve feed connection limits now).2 = g.enter feed connection now.millis ∧
      (g.enter feed connection now.millis).countSince feed none (dayStart now).millis ≤
        limits.daily := by
  obtain hr | ⟨d, hd, hr⟩ := g.reserve_cases feed connection limits now
  · rw [hr] at h ⊢
    refine ⟨(Decision.allowed.inj h).symm, rfl, ?_⟩
    by_contra hn
    rw [reserve, if_pos (by omega)] at hr
    cases hr
  · rw [hr] at h
    exact absurd h (hd id)

/-- Giving back the last reservation leaves those before it. -/
theorem Numbered.release_enter (h : g.Numbered) (feed connection : String) (now : Int) :
    ((g.enter feed connection now).release (g.last + 1 : Nat)).rows = g.rows := by
  have hrows : (g.rows.filter fun x => (x.id : Int) != (g.last + 1 : Nat)) = g.rows := by
    refine List.filter_eq_self.mpr fun x hx => ?_
    have hx := h x hx
    simp only [bne_iff_ne, ne_eq]
    omega
  rw [release, enter, List.filter_append, hrows]
  simp

/-- Giving back the last reservation leaves every count as it was. -/
theorem Numbered.countSince_release_enter (h : g.Numbered) (feed connection : String) (now : Int)
    (other : String) (through : Option String) (since : Int) :
    ((g.enter feed connection now).release (g.last + 1 : Nat)).countSince other through since =
      g.countSince other through since := by
  rw [countSince, h.release_enter, countSince]

theorem Numbered.enter (h : g.Numbered) (feed connection : String) (now : Int) :
    (g.enter feed connection now).Numbered := by
  intro x hx
  rcases List.mem_append.mp hx with hx | hx
  · exact Nat.le_succ_of_le (h x hx)
  · obtain rfl := List.mem_singleton.mp hx
    exact Nat.le_refl _

theorem Numbered.filter (h : g.Numbered) (test : Reservation → Bool) :
    Numbered { g with rows := g.rows.filter test } :=
  fun x hx => h x (List.mem_of_mem_filter hx)

theorem purge_countSince (g : Ledger) (feed other : String) (through : Option String)
    (since : Int) :
    (g.purge feed).2.countSince other through since =
      if other = feed then 0 else g.countSince other through since := by
  rw [purge, remove, countSince, List.filter_filter]
  split
  · next h =>
      subst h
      refine List.length_eq_zero_iff.mpr (List.filter_eq_nil_iff.mpr fun x _ => ?_)
      by_cases hx : x.feed = other <;> simp [concerns, hx]
  · next h =>
      refine congrArg List.length (List.filter_congr fun x _ => ?_)
      by_cases hx : x.feed = other
      · simp [hx, h]
      · simp [concerns, hx]

/-- Whatever is asked of a ledger, its numbers are not given out twice. -/
theorem Numbered.answer (h : g.Numbered) (q : Request) : (g.answer q).2.Numbered := by
  cases q with
  | reserve feed connection limits now =>
      obtain hr | ⟨d, -, hr⟩ := g.reserve_cases feed connection limits now
      · rw [Ledger.answer, hr]
        change (g.enter feed connection now.millis).Numbered
        exact h.enter feed connection now.millis
      · rw [Ledger.answer, hr]
        exact h
  | release id => exact h.filter _
  | prune before => exact h.filter _
  | purge feed => exact h.filter _
  | count feed connection since => exact h
  | remaining feed daily now => exact h

/-- Deliveries of the feed that were made at `times` are still entered, and as they are entered
there are never more than `daily` of them on a day. -/
structure Covers (g : Ledger) (feed : String) (daily : Nat) (times : List Instant) : Prop where
  entered : ∃ kept : List Reservation, kept.Sublist g.rows ∧
    (∀ x ∈ kept, x.feed = feed ∧ x.id ≤ g.last) ∧
    kept.map Reservation.time = times.map Instant.millis
  bounded : ∀ t, inDay t (times.map Instant.stored) ≤ daily

theorem covers_nil (g : Ledger) (feed : String) (daily : Nat) : g.Covers feed daily [] :=
  ⟨⟨[], List.nil_sublist _, by simp, rfl⟩, fun _ => Nat.zero_le _⟩

namespace Covers

theorem mono {g' : Ledger} (h : g.Covers feed daily times)
    (hrows : ∀ kept : List Reservation, kept.Sublist g.rows →
      (∀ x ∈ kept, x.feed = feed ∧ x.id ≤ g.last) → kept.Sublist g'.rows)
    (hlast : g.last ≤ g'.last) : g'.Covers feed daily times := by
  obtain ⟨kept, hsub, hkept, ht⟩ := h.entered
  refine ⟨⟨kept, hrows kept hsub hkept, fun x hx => ?_, ht⟩, h.bounded⟩
  exact ⟨(hkept x hx).1, Nat.le_trans (hkept x hx).2 hlast⟩

/-- An entry that does not count as a delivery does no harm. -/
theorem enter (h : g.Covers feed daily times) (other connection : String) (now : Int) :
    (g.enter other connection now).Covers feed daily times :=
  h.mono (fun _ hs _ => hs.trans (List.sublist_append_left ..)) (Nat.le_succ _)

/-- Giving back the last reservation does no harm. -/
theorem release_enter (h : g.Covers feed daily times) (other connection : String) (now : Int) :
    ((g.enter other connection now).release (g.last + 1 : Nat)).Covers feed daily times := by
  refine h.mono (fun kept hs hkept => List.sublist_filter_iff.mpr ⟨kept, ?_, ?_⟩) (Nat.le_succ _)
  · exact hs.trans (List.sublist_append_left ..)
  · refine (List.filter_eq_self.mpr fun x hx => ?_).symm
    have hid := (hkept x hx).2
    simp only [bne_iff_ne, ne_eq]
    omega

/-- What is removed with another feed does no harm. -/
theorem purge (h : g.Covers feed daily times) {other : String} (hn : other ≠ feed) :
    (g.purge other).2.Covers feed daily times := by
  refine h.mono (fun kept hs hkept => List.sublist_filter_iff.mpr ⟨kept, hs, ?_⟩) (Nat.le_refl _)
  refine (List.filter_eq_self.mpr fun x hx => ?_).symm
  simpa [(hkept x hx).1] using hn.symm

/-- A delivery that is allowed is covered with the others. -/
theorem allowed (h : g.Covers feed daily times) (connection : String)
    (hroom : (g.enter feed connection now.millis).countSince feed none (dayStart now).millis ≤
      daily) :
    (g.enter feed connection now.millis).Covers feed daily (times ++ [now]) := by
  obtain ⟨kept, hsub, hkept, htimes⟩ := h.entered
  let entry : Reservation := ⟨g.last + 1, feed, connection, now.millis⟩
  have hsub' : (kept ++ [entry]).Sublist (g.enter feed connection now.millis).rows :=
    hsub.append_right [entry]
  have hkept' : ∀ x ∈ kept ++ [entry], x.feed = feed ∧ x.id ≤ g.last + 1 := by
    intro x hx
    rcases List.mem_append.mp hx with hx | hx
    · exact ⟨(hkept x hx).1, Nat.le_succ_of_le (hkept x hx).2⟩
    · obtain rfl := List.mem_singleton.mp hx
      exact ⟨rfl, Nat.le_refl _⟩
  have htimes' : (kept ++ [entry]).map Reservation.time = (times ++ [now]).map Instant.millis := by
    simp [entry, htimes]
  refine ⟨⟨kept ++ [entry], hsub', hkept', htimes'⟩, fun t => ?_⟩
  by_cases hin : dayStart t < now.stored ∧ now.stored ≤ t
  -- All of the day that ends at `t` counted when the delivery was allowed.
  · have hnow : now.millis ≤ t.millis := (ofMillis_inDay_iff.mp hin).2
    calc inDay t ((times ++ [now]).map Instant.stored)
        = inDay t (((kept ++ [entry]).map Reservation.time).map Instant.ofMillis) := by
          rw [htimes', List.map_map]
          rfl
      _ = (kept ++ [entry]).countP fun x =>
            dayStart t < Instant.ofMillis x.time && Instant.ofMillis x.time ≤ t := by
          rw [inDay, List.map_map, List.countP_map]
          rfl
      _ ≤ (kept ++ [entry]).countP fun x =>
            concerns feed none x && (dayStart now).millis < x.time := by
          refine List.countP_mono_left fun x hx hday => ?_
          simp only [Bool.and_eq_true, decide_eq_true_eq, ofMillis_inDay_iff,
            millis_dayStart] at hday
          simp only [concerns, (hkept' x hx).1, Option.all_none, BEq.rfl, Bool.and_self,
            Bool.true_and, decide_eq_true_eq, millis_dayStart]
          omega
      _ ≤ (g.enter feed connection now.millis).rows.countP fun x =>
            concerns feed none x && (dayStart now).millis < x.time := hsub'.countP_le
      _ = (g.enter feed connection now.millis).countSince feed none (dayStart now).millis :=
          List.countP_eq_length_filter
      _ ≤ daily := hroom
  · have hnow : inDay t [now.stored] = 0 := by simpa [inDay] using hin
    rw [List.map_append, List.map_singleton, inDay, List.countP_append, ← inDay, ← inDay, hnow,
      Nat.add_zero]
    exact h.bounded t

end Covers

end Ledger

end Newswire.Quota
