import Mathlib.Data.List.Find
import Mathlib.Data.List.Nodup
import Newswire.Quota.Notebook

/-!
# Pages of a notebook

What a feed has after a change to the pages is read off its own page. No two pages are for one feed,
so that an empty page can be thrown away.
-/

namespace Newswire.Quota

namespace Notebook

variable {b : Notebook} {feed connection : String} {limits : Limits} {now : Instant}

/-- No feed has two pages. -/
def Distinct (b : Notebook) : Prop := (b.pages.map (·.feed)).Nodup

theorem distinct_empty : Distinct {} := .nil

theorem feed_of_find? {pages : List Page} {feed : String} {p : Page}
    (h : pages.find? (·.feed == feed) = some p) : p.feed = feed := by
  have hp := List.find?_some h
  simpa using hp

theorem page_feed (b : Notebook) (feed : String) : (b.page feed).feed = feed := by
  rw [page]
  cases h : b.pages.find? (·.feed == feed) with
  | none => rfl
  | some p => exact feed_of_find? h

theorem page_put (b : Notebook) (p : Page) (feed : String) :
    (b.put p).page feed = if p.feed = feed then p else b.page feed := by
  rw [page, put, List.find?_cons]
  by_cases h : p.feed = feed
  · simp [h]
  · have hfind : (b.pages.filter (·.feed != p.feed)).find? (·.feed == feed) =
        b.pages.find? (·.feed == feed) := by
      rw [List.find?_filter]
      refine List.find?_congr fun q _ => ?_
      by_cases hq : q.feed = feed
      · simp [hq, Ne.symm h]
      · simp [hq]
    rw [beq_false_of_ne h, hfind, if_neg h, page]

/-- A page that is put back is found as it was, as is every other. -/
theorem page_put_page (b : Notebook) (feed other : String) :
    (b.put (b.page feed)).page other = b.page other := by
  rw [page_put, page_feed]
  split
  · next h => rw [h]
  · rfl

theorem page_keep (b : Notebook) (test : Entry → Bool) (feed : String) :
    (b.keep test).page feed =
      { b.page feed with entries := (b.page feed).entries.filter test } := by
  rw [page, keep, List.find?_map, page]
  change (Option.map _ (b.pages.find? (·.feed == feed))).getD _ = _
  cases b.pages.find? (·.feed == feed) <;> rfl

theorem page_purge (b : Notebook) (feed other : String) :
    (b.purge feed).2.page other = if other = feed then { feed := other } else b.page other := by
  rw [page, purge, List.find?_filter]
  split
  · next h =>
      subst h
      rw [List.find?_eq_none.mpr fun q _ => by simp]
      rfl
  · next h =>
      rw [page]
      refine congrArg (Option.getD · _) (List.find?_congr fun q _ => ?_)
      by_cases hq : q.feed = other
      · simp [hq, h]
      · simp [hq]

/-- A page is found under its feed. -/
theorem page_of_mem {p : Page} (hb : b.Distinct) (hp : p ∈ b.pages) :
    b.page p.feed = p := by
  have hsome : (b.pages.find? (·.feed == p.feed)).isSome = true :=
    List.find?_isSome.mpr ⟨p, hp, beq_self_eq_true _⟩
  obtain ⟨q, hq⟩ := Option.isSome_iff_exists.mp hsome
  rw [page, hq]
  exact List.inj_on_of_nodup_map hb (List.mem_of_find?_eq_some hq) hp (feed_of_find? hq)

/-- It does not matter whether a page without entries is kept. -/
theorem page_filter_nonempty (hb : b.Distinct) (feed : String) :
    page { b with pages := b.pages.filter fun p => !p.entries.isEmpty } feed = b.page feed := by
  rw [page, List.find?_filter]
  cases h : b.pages.find? fun p => (!p.entries.isEmpty) = true ∧ (p.feed == feed) = true with
  | some p =>
      have hp := List.find?_some h
      simp only [decide_eq_true_eq] at hp
      have hfeed : p.feed = feed := beq_iff_eq.mp hp.2
      exact (hfeed ▸ page_of_mem hb (List.mem_of_find?_eq_some h)).symm
  | none =>
      rw [page]
      cases hfind : b.pages.find? (·.feed == feed) with
      | none => rfl
      | some p =>
          have hp := List.find?_eq_none.mp h p (List.mem_of_find?_eq_some hfind)
          have hempty : p.entries = [] := by simpa [feed_of_find? hfind] using hp
          obtain ⟨name, entries⟩ := p
          obtain rfl : name = feed := feed_of_find? hfind
          obtain rfl : entries = [] := hempty
          rfl

namespace Distinct

theorem put (h : b.Distinct) (p : Page) : (b.put p).Distinct := by
  rw [Distinct, Notebook.put, List.map_cons, List.nodup_cons]
  constructor
  · simp
  · exact List.Nodup.sublist (List.filter_sublist.map _) h

theorem keep (h : b.Distinct) (test : Entry → Bool) : (b.keep test).Distinct := by
  rw [Distinct, Notebook.keep, List.map_map]
  exact h

theorem filter (h : b.Distinct) (test : Page → Bool) :
    Distinct { b with pages := b.pages.filter test } :=
  List.Nodup.sublist (List.filter_sublist.map _) h

end Distinct

/-- The page of the feed with a reservation on it that is made now. -/
def enter (b : Notebook) (feed connection : String) (now : Instant) : Notebook :=
  { b.put { b.page feed with entries := (b.page feed).entries ++ [⟨b.next, connection, now⟩] } with
    next := b.next + 1 }

theorem page_enter (b : Notebook) (feed connection : String) (now : Instant) (other : String) :
    (b.enter feed connection now).page other =
      if feed = other then
        { b.page other with entries := (b.page other).entries ++ [⟨b.next, connection, now⟩] }
      else b.page other := by
  refine (page_put b _ other).trans ?_
  rw [page_feed]
  by_cases h : feed = other
  · rw [if_pos h, if_pos h, h]
  · rw [if_neg h, if_neg h]

/-- A delivery is written down where the day and every limit of the connection leave room, and after
a refusal there is a page of the feed, with what was on it. -/
theorem reserve_cases (b : Notebook) (feed connection : String) (limits : Limits) (now : Instant) :
    (b.count feed none (dayStart now) < limits.daily ∧
        (∀ l ∈ limits.connection, b.count feed (some connection) (l.start now) < l.limit) ∧
        b.reserve feed connection limits now = (.allowed b.next, b.enter feed connection now)) ∨
      ∃ d, (∀ id, d ≠ .allowed id) ∧
        b.reserve feed connection limits now = (d, b.put (b.page feed)) := by
  rw [reserve]
  dsimp only
  split
  · exact Or.inr ⟨.dayExceeded, by simp, rfl⟩
  · next hday =>
      cases he : (b.page feed).exhausted connection now limits.connection with
      | some l => exact Or.inr ⟨.limitExceeded l.id, by simp, rfl⟩
      | none =>
          refine Or.inl ⟨Nat.lt_of_not_le hday, fun l hl => ?_, rfl⟩
          have hroom := List.find?_eq_none.mp he l hl
          exact Nat.lt_of_not_le fun hused => hroom (decide_eq_true hused)

/-- A limit that is used up refuses a reservation, whatever its window. -/
theorem reserve_of_used {daily : Nat} {l : RateLimit}
    (hroom : b.count feed none (dayStart now) < daily)
    (hused : l.limit ≤ b.count feed (some connection) (l.start now)) :
    (b.reserve feed connection { daily, connection := [l] } now).1 = .limitExceeded l.id := by
  rw [count] at hroom hused
  have hexhausted : (b.page feed).exhausted connection now [l] = some l := by
    rw [Page.exhausted, List.find?_singleton, if_pos (decide_eq_true hused)]
  rw [reserve]
  dsimp only
  rw [if_neg (Nat.not_le.mpr hroom), hexhausted]

theorem Distinct.answer (h : b.Distinct) (q : Request) : (b.answer q).2.Distinct := by
  cases q with
  | reserve feed connection limits now =>
      obtain ⟨-, -, hr⟩ | ⟨d, -, hr⟩ := b.reserve_cases feed connection limits now
      · rw [Notebook.answer, hr]
        exact h.put _
      · rw [Notebook.answer, hr]
        exact h.put _
  | release id => exact h.keep _
  | count feed connection since => exact h
  | remaining feed daily now => exact h
  | prune before => exact (h.keep _).filter _
  | purge feed => exact h.filter _

end Notebook

/-- The reservations that are on a page, with their times in nanoseconds. -/
def Page.reservations (p : Page) : List Reservation :=
  p.entries.map fun e => ⟨e.id, p.feed, e.connection, e.time.nanos⟩

namespace Notebook

/-- The reservations that are on the pages. -/
def live (b : Notebook) : List Reservation := b.pages.flatMap Page.reservations

theorem foldl_length (pages : List Page) (n : Nat) :
    pages.foldl (fun n p => n + p.entries.length) n =
      n + (pages.flatMap Page.reservations).length := by
  induction pages generalizing n with
  | nil => rfl
  | cons p rest ih =>
      rw [List.foldl_cons, ih, List.flatMap_cons, List.length_append, Page.reservations,
        List.length_map, Nat.add_assoc]

theorem size_eq (b : Notebook) : b.size = b.live.length := by
  rw [size, foldl_length, Nat.zero_add, live]

end Notebook

end Newswire.Quota
