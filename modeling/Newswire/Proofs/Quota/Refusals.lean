import Newswire.Proofs.Quota.Ledger
import Newswire.Proofs.Quota.Notebook
import Newswire.Proofs.Quota.Requests

/-!
# Refusals by counting

The pages of a notebook hold what the rows of a ledger do, each those of its feed in their order.
Whether a reservation is refused is a matter of how many others there are, and not of their numbers
or of where they are written down. So the two keepers differ only in how they tell the time and in
when they take a limit of a connection to be full, and each answers as a table does that goes by its
ways.
-/

namespace Newswire.Quota

/-- A reservation with its time in nanoseconds, as it stands on the page of its feed. -/
def Reservation.entry (r : Reservation) : Entry := ⟨r.id, r.connection, ⟨r.time⟩⟩

namespace Ledger

/-- The page that a notebook would have for a feed. -/
def page (g : Ledger) (feed : String) : Page :=
  ⟨feed, (g.rows.filter (·.feed == feed)).map Reservation.entry⟩

theorem page_countAfter (g : Ledger) (feed : String) (cutoff : Instant)
    (through : Option String) :
    (g.page feed).countAfter cutoff through = g.countSince feed through cutoff.nanos := by
  rw [Page.countAfter, page, List.filter_map, List.length_map, List.filter_filter, countSince]
  refine congrArg List.length (List.filter_congr fun r _ => ?_)
  change (decide (cutoff.nanos < r.time) && through.all (r.connection == ·) && r.feed == feed) =
    (r.feed == feed && through.all (r.connection == ·) && decide (cutoff.nanos < r.time))
  rw [Bool.and_comm, Bool.and_comm (decide _), Bool.and_assoc]

theorem page_enter (g : Ledger) (feed connection : String) (now : Instant) (other : String) :
    (g.enter feed connection now.nanos).page other =
      if feed = other then
        { g.page other with entries := (g.page other).entries ++ [⟨g.last + 1, connection, now⟩] }
      else g.page other := by
  rw [page, enter, List.filter_append, List.map_append, page]
  by_cases h : feed = other
  · simp [h, Reservation.entry]
  · simp [h]

/-- What is removed from the table is removed from every page. -/
theorem page_filter (g : Ledger) (test : Entry → Bool) (feed : String) :
    page { g with rows := g.rows.filter fun r => test r.entry } feed =
      { g.page feed with entries := (g.page feed).entries.filter test } := by
  rw [page, page, List.filter_map, List.filter_filter, List.filter_filter]
  refine congrArg (Page.mk feed) (congrArg _ (List.filter_congr fun r _ => ?_))
  exact Bool.and_comm ..

theorem page_purge (g : Ledger) (feed other : String) :
    (g.purge feed).2.page other = if other = feed then { feed := other } else g.page other := by
  rw [page, purge, remove, List.filter_filter, page]
  split
  · next h =>
      subst h
      refine congrArg (Page.mk other) (List.map_eq_nil_iff.mpr ?_)
      refine List.filter_eq_nil_iff.mpr fun r _ => ?_
      by_cases hr : r.feed = other <;> simp [hr]
  · next h =>
      refine congrArg (Page.mk other) (congrArg _ (List.filter_congr fun r _ => ?_))
      by_cases hr : r.feed = other
      · simp [hr, h]
      · simp [hr]

theorem reservations_page (g : Ledger) (feed : String) :
    (g.page feed).reservations = g.rows.filter (·.feed == feed) := by
  rw [page, Page.reservations, List.map_map]
  refine (List.map_congr_left fun r hr => ?_).trans (List.map_id _)
  have hfeed : r.feed = feed := by simpa using List.of_mem_filter hr
  subst hfeed
  rfl

/-- The rows are those of the pages of their feeds. -/
theorem flatMap_page_perm {feeds : List String} (hn : feeds.Nodup) (g : Ledger) :
    (feeds.flatMap fun feed => (g.page feed).reservations).Perm
      (g.rows.filter fun r => decide (r.feed ∈ feeds)) := by
  induction feeds with
  | nil => simp
  | cons feed rest ih =>
      obtain ⟨hfeed, hrest⟩ := List.nodup_cons.mp hn
      let mine := g.rows.filter fun r => decide (r.feed ∈ feed :: rest)
      have hfront : mine.filter (·.feed == feed) = (g.page feed).reservations := by
        rw [List.filter_filter, reservations_page]
        refine List.filter_congr fun r _ => ?_
        by_cases h : r.feed = feed <;> simp [h]
      have hback : mine.filter (fun r => !(r.feed == feed)) =
          g.rows.filter fun r => decide (r.feed ∈ rest) := by
        rw [List.filter_filter]
        refine List.filter_congr fun r _ => ?_
        by_cases h : r.feed = feed
        · simp [h, hfeed]
        · simp [h]
      rw [List.flatMap_cons, ← hfront]
      refine ((ih hrest).append_left _).trans ?_
      rw [← hback]
      exact List.filter_append_perm _ mine

end Ledger

/-- A notebook and a table in nanoseconds that stand for the same reservations. -/
structure Mirrors (b : Notebook) (g : Ledger) : Prop where
  next : b.next = g.last + 1
  distinct : b.Distinct
  page (feed : String) : b.page feed = g.page feed

namespace Mirrors

variable {b : Notebook} {g : Ledger}

theorem empty : Mirrors {} {} := ⟨rfl, Notebook.distinct_empty, fun _ => rfl⟩

theorem count (h : Mirrors b g) (feed : String) (through : Option String) (since : Instant) :
    b.count feed through since = g.countSince feed through since.nanos := by
  rw [Notebook.count, h.page, Ledger.page_countAfter]

/-- The same reservations are on the pages and in the table. -/
theorem live (h : Mirrors b g) : b.live.Perm g.rows := by
  have hpages : ∀ p ∈ b.pages, p.reservations = (g.page p.feed).reservations := by
    intro p hp
    rw [← h.page, Notebook.page_of_mem h.distinct hp]
  have hrows : ∀ r ∈ g.rows, decide (r.feed ∈ b.pages.map (·.feed)) = true := by
    intro r hr
    by_contra hnone
    have hpage : (b.page r.feed).entries = [] := by
      rw [Notebook.page, List.find?_eq_none.mpr fun p hp => ?_]
      · rfl
      · simp only [List.mem_map, decide_eq_true_eq] at hnone
        exact fun he => hnone ⟨p, hp, beq_iff_eq.mp he⟩
    rw [h.page, Ledger.page, List.map_eq_nil_iff, List.filter_eq_nil_iff] at hpage
    exact hpage r hr (beq_self_eq_true _)
  have hperm := Ledger.flatMap_page_perm h.distinct g
  rw [List.filter_eq_self.mpr hrows, List.flatMap_map] at hperm
  rw [Notebook.live, List.flatMap_congr hpages]
  exact hperm

theorem size (h : Mirrors b g) : b.size = g.rows.length :=
  b.size_eq.trans h.live.length_eq

theorem enter (h : Mirrors b g) (feed connection : String) (now : Instant) :
    Mirrors (b.enter feed connection now) (g.enter feed connection now.nanos) where
  next := congrArg (· + 1) h.next
  distinct := h.distinct.put _
  page other := by rw [Notebook.page_enter, Ledger.page_enter, h.page, h.next]

theorem keep (h : Mirrors b g) (test : Entry → Bool) :
    Mirrors (b.keep test) { g with rows := g.rows.filter fun r => test r.entry } where
  next := h.next
  distinct := h.distinct.keep test
  page feed := by rw [Notebook.page_keep, Ledger.page_filter, h.page]

theorem put_page (h : Mirrors b g) (feed : String) : Mirrors (b.put (b.page feed)) g where
  next := h.next
  distinct := h.distinct.put _
  page other := by rw [Notebook.page_put_page, h.page]

theorem prune (h : Mirrors b g) (before : Instant) :
    (b.prune before).1 = (g.remove (·.time < before.nanos)).1 ∧
      Mirrors (b.prune before).2 (g.remove (·.time < before.nanos)).2 := by
  have hkept := h.keep fun e => before ≤ e.time
  have hrows : (g.rows.filter fun r => !decide (r.time < before.nanos)) =
      g.rows.filter fun r => decide (before ≤ r.entry.time) := by
    refine List.filter_congr fun r _ => ?_
    rw [← decide_not]
    exact decide_eq_decide.mpr Int.not_lt
  constructor
  · have hsplit :=
      List.length_eq_length_filter_add (l := g.rows) fun r => decide (r.time < before.nanos)
    rw [hrows] at hsplit
    change b.size - (b.keep _).size = (g.rows.filter fun r => decide (r.time < before.nanos)).length
    rw [h.size, hkept.size]
    exact Nat.sub_eq_of_eq_add hsplit
  · constructor
    · exact h.next
    · exact hkept.distinct.filter _
    · intro feed
      rw [Ledger.remove, hrows]
      exact (Notebook.page_filter_nonempty hkept.distinct feed).trans (hkept.page feed)

theorem purge (h : Mirrors b g) (feed : String) :
    (b.purge feed).1 = (g.purge feed).1 ∧ Mirrors (b.purge feed).2 (g.purge feed).2 := by
  constructor
  · rw [Notebook.purge, h.page]
    exact List.length_map _
  · constructor
    · exact h.next
    · exact h.distinct.filter _
    · intro other
      rw [Notebook.page_purge, Ledger.page_purge, h.page]

end Mirrors

/-- How a table goes about its business: how it tells the time, and by which test a limit of a
connection is full at a moment, when so many count. -/
structure Ways where
  time : Instant → Int
  isFull : RateLimit → Instant → Nat → Bool
  /-- A day is told apart from the moment at which it ends. -/
  time_dayStart_lt : ∀ now, time (dayStart now) < time now

namespace Ledger

variable (w : Ways) (g : Ledger)

/-- What is said against a reservation. -/
def refusal (feed connection : String) (limits : Limits) (now : Instant) : Option Decision :=
  if limits.daily ≤ g.countSince feed none (w.time (dayStart now)) then some .dayExceeded
  else
    (limits.connection.find? fun l =>
      w.isFull l now (g.countSince feed (some connection) (w.time (l.start now)))).map
        (.limitExceeded ·.id)

variable {w g} in
theorem ne_allowed_of_refusal {feed connection : String} {limits : Limits} {now : Instant}
    {d : Decision} (h : g.refusal w feed connection limits now = some d) (id : Nat) :
    d ≠ .allowed id := by
  rw [refusal] at h
  split at h
  · obtain rfl := Option.some.inj h
    simp
  · obtain ⟨l, -, rfl⟩ := Option.map_eq_some_iff.mp h
    simp

/-- Two tables refuse the same if they count as much for the day, and find the same limits full as
long as the day has room. -/
theorem refusal_congr {w w' : Ways} {g g' : Ledger} {feed connection : String} {limits : Limits}
    {now : Instant}
    (hday : g.countSince feed none (w.time (dayStart now)) =
      g'.countSince feed none (w'.time (dayStart now)))
    (hfull : g.countSince feed none (w.time (dayStart now)) < limits.daily →
      ∀ l ∈ limits.connection,
        w.isFull l now (g.countSince feed (some connection) (w.time (l.start now))) =
          w'.isFull l now (g'.countSince feed (some connection) (w'.time (l.start now)))) :
    g.refusal w feed connection limits now = g'.refusal w' feed connection limits now := by
  rw [refusal, refusal, ← hday]
  split
  · rfl
  · next hroom =>
      refine congrArg _ (List.find?_congr fun l hl => ?_)
      exact hfull (Nat.lt_of_not_le hroom) l hl

/-- Answers of a table that goes by such ways. -/
def answerBy : Request → Answer × Ledger
  | .reserve feed connection limits now =>
    match g.refusal w feed connection limits now with
    | some d => (.decision d, g)
    | none => (.decision (.allowed (g.last + 1)), g.enter feed connection (w.time now))
  | .release id => (.done, g.release id)
  | .count feed connection since => (.number (g.countSince feed connection (w.time since)), g)
  | .remaining feed daily now =>
    (.number (room daily (g.countSince feed none (w.time (dayStart now)))), g)
  | .prune before =>
    let (n, g) := g.remove (·.time < w.time before)
    (.number n, g)
  | .purge feed =>
    let (n, g) := g.purge feed
    (.number n, g)

theorem answerBy_reserve_cases (feed connection : String) (limits : Limits) (now : Instant) :
    g.answerBy w (.reserve feed connection limits now) =
        (.decision (.allowed (g.last + 1)), g.enter feed connection (w.time now)) ∨
      ∃ d, (∀ id, d ≠ .allowed id) ∧
        g.answerBy w (.reserve feed connection limits now) = (.decision d, g) := by
  rw [answerBy]
  cases h : g.refusal w feed connection limits now with
  | some d => exact Or.inr ⟨d, ne_allowed_of_refusal h, rfl⟩
  | none => exact Or.inl rfl

/-- A limit is full for a ledger if one more would exceed it, where the window holds that one. -/
def isFull (l : RateLimit) (now : Instant) (used : Nat) : Bool :=
  decide (l.limit < used + if (l.start now).millis < now.millis then 1 else 0)

/-- A ledger tells the time in whole milliseconds. -/
def ways : Ways := ⟨Instant.millis, isFull, millis_dayStart_lt⟩

theorem answer_eq_answerBy (q : Request) : g.answer q = g.answerBy ways q := by
  cases q with
  | reserve feed connection limits now =>
      have hexceeded : (g.enter feed connection now.millis).exceeded feed connection now
            limits.connection =
          limits.connection.find? fun l =>
            isFull l now (g.countSince feed (some connection) (l.start now).millis) := by
        rw [exceeded]
        refine List.find?_congr fun l _ => ?_
        simp [countSince_enter, isFull]
      have hrefusal : g.refusal ways feed connection limits now =
          if limits.daily ≤ g.countSince feed none (dayStart now).millis then some .dayExceeded
          else
            (limits.connection.find? fun l =>
              isFull l now (g.countSince feed (some connection) (l.start now).millis)).map
                (.limitExceeded ·.id) := rfl
      rw [answer, reserve, answerBy, hrefusal]
      dsimp only
      rw [countSince_enter_of_lt (millis_dayStart_lt now), hexceeded]
      by_cases hday : limits.daily ≤ g.countSince feed none (dayStart now).millis
      · rw [if_pos hday, if_pos (Nat.lt_succ_of_le hday)]
      · rw [if_neg hday, if_neg fun h => hday (Nat.le_of_lt_succ h)]
        cases limits.connection.find? _ with
        | some l => rfl
        | none => rfl
  | _ => rfl

end Ledger

/-- A limit is full for a notebook if there are as many as it says. -/
def Notebook.isFull (l : RateLimit) (_ : Instant) (used : Nat) : Bool := decide (l.limit ≤ used)

/-- A notebook tells the time in nanoseconds. -/
def Notebook.ways : Ways := ⟨Instant.nanos, isFull, dayStart_lt⟩

theorem Mirrors.answerBy {b : Notebook} {g : Ledger} (h : Mirrors b g) (q : Request) :
    (b.answer q).1 = (g.answerBy Notebook.ways q).1 ∧
      Mirrors (b.answer q).2 (g.answerBy Notebook.ways q).2 := by
  cases q with
  | reserve feed connection limits now =>
      have hexhausted : (b.page feed).exhausted connection now limits.connection =
          limits.connection.find? fun l =>
            Notebook.isFull l now (g.countSince feed (some connection) (l.start now).nanos) := by
        rw [Page.exhausted]
        refine List.find?_congr fun l _ => ?_
        rw [h.page, Ledger.page_countAfter, Notebook.isFull]
      have hday : (b.page feed).countAfter (dayStart now) none =
          g.countSince feed none (dayStart now).nanos := h.count feed none (dayStart now)
      have hrefusal : g.refusal Notebook.ways feed connection limits now =
          if limits.daily ≤ g.countSince feed none (dayStart now).nanos then some .dayExceeded
          else
            (limits.connection.find? fun l => Notebook.isFull l now
              (g.countSince feed (some connection) (l.start now).nanos)).map
                (.limitExceeded ·.id) := rfl
      rw [Notebook.answer, Notebook.reserve, Ledger.answerBy, hrefusal]
      dsimp only
      rw [hday, hexhausted]
      split
      · exact ⟨rfl, h.put_page feed⟩
      · cases limits.connection.find? _ with
        | some l => exact ⟨rfl, h.put_page feed⟩
        | none =>
            exact ⟨congrArg (fun n => Answer.decision (.allowed n)) h.next,
              h.enter feed connection now⟩
  | release id => exact ⟨rfl, h.keep _⟩
  | count feed through since => exact ⟨congrArg Answer.number (h.count ..), h⟩
  | remaining feed daily now =>
      exact ⟨congrArg (fun n => Answer.number (room daily n)) (h.count ..), h⟩
  | prune before =>
      obtain ⟨hn, hm⟩ := h.prune before
      exact ⟨congrArg Answer.number hn, hm⟩
  | purge feed =>
      obtain ⟨hn, hm⟩ := h.purge feed
      exact ⟨congrArg Answer.number hn, hm⟩

/-- A keeper whose states stand for tables that go by such ways, and which answers as they do. -/
structure Follows {σ : Type} (w : Ways)
    (answer : σ → Request → Answer × σ) (live : σ → List Reservation)
    (Stands : σ → Ledger → Prop) : Prop where
  live {s g} (h : Stands s g) : (live s).Perm g.rows
  answer {s g} (h : Stands s g) (q : Request) :
    (answer s q).1 = (g.answerBy w q).1 ∧ Stands (answer s q).2 (g.answerBy w q).2

theorem Ledger.follows : Follows ways answer rows Eq where
  live h := h ▸ List.Perm.refl _
  answer {g _} h q := by
    subst h
    rw [g.answer_eq_answerBy]
    exact ⟨rfl, rfl⟩

theorem Notebook.follows : Follows ways answer live Mirrors where
  live h := h.live
  answer h q := h.answerBy q

namespace Follows

variable {σ : Type} {w : Ways} {answer : σ → Request → Answer × σ}
  {live : σ → List Reservation} {Stands : σ → Ledger → Prop} {s : σ} {g : Ledger}

theorem answers (h : Follows w answer live Stands) (hs : Stands s g) (qs : List Request) :
    answers answer s qs = Quota.answers (Ledger.answerBy w) g qs ∧
      Stands (afterwards answer s qs) (afterwards (Ledger.answerBy w) g qs) := by
  induction qs generalizing s g with
  | nil => exact ⟨rfl, hs⟩
  | cons q rest ih =>
      obtain ⟨hfirst, hs⟩ := h.answer hs q
      obtain ⟨hrest, hafter⟩ := ih hs
      exact ⟨congrArg₂ List.cons hfirst hrest, hafter⟩

end Follows

end Newswire.Quota
