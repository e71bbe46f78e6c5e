import Newswire.Proofs.Dispatch.Accounts

/-!
# Who takes what, and in which order

Each feed has at most one worker that has not given its queue up, and as long as events are accepted
it is the one whose queue they get. Whatever was accepted before an event was submitted is in front
of it.
-/

namespace Newswire.Dispatch

/-- The queues lead to the workers that have not gone, and to no others. Once no more events are
accepted, all of these are waited for. -/
structure Staffing (roster : List (Option String)) (queues : List (String × Nat))
    (awaited : Option (List Nat)) : Prop where
  apart : Apart roster
  queued {n : Nat} {feed : String} : awaited = none → roster[n]? = some (some feed) →
    queues.lookup feed = some n
  listed {n : Nat} {feed : String} : (feed, n) ∈ queues → roster[n]? = some (some feed)
  closed {ns : List Nat} : awaited = some ns → queues = [] ∧
    ∀ n feed, roster[n]? = some (some feed) → n ∈ ns

namespace Staffing

variable {roster : List (Option String)} {queues : List (String × Nat)}
  {awaited : Option (List Nat)} {feed : String} {n : Nat}

theorem empty : Staffing [] [] none := ⟨nofun, nofun, nofun, nofun⟩

theorem listed_of_lookup (h : Staffing roster queues awaited) (hn : queues.lookup feed = some n) :
    roster[n]? = some (some feed) := by
  obtain ⟨before, after, rfl, -⟩ := List.lookup_eq_some_iff.mp hn
  exact h.listed (List.mem_append_right _ (.head _))

theorem lookup_filter {p : String × Nat → Bool} (hn : queues.lookup feed = some n)
    (hp : p (feed, n) = true) : (queues.filter p).lookup feed = some n := by
  obtain ⟨before, after, rfl, hbefore⟩ := List.lookup_eq_some_iff.mp hn
  refine List.lookup_eq_some_iff.mpr ⟨before.filter p, after.filter p, ?_, fun q hq => ?_⟩
  · rw [List.filter_append, List.filter_cons_of_pos hp]
  · exact hbefore q (List.mem_filter.mp hq).1

/-- A feed that has no worker gets one. -/
theorem hire (h : Staffing roster queues none) (hnone : some feed ∉ roster) :
    Staffing (roster ++ [some feed])
      (queues.filter (·.1 != feed) ++ [(feed, roster.length)]) none := by
  have hne {m : Nat} {other : String} (hm : roster[m]? = some (some other)) : other ≠ feed := by
    rintro rfl
    exact hnone (List.mem_of_getElem? hm)
  refine ⟨fun m k other hm hk => ?_, fun {m other} _ hm => ?_, fun {m other} hmem => ?_, nofun⟩
  · obtain hm | ⟨rfl, hother⟩ := getElem?_concat_cases hm <;>
      obtain hk | ⟨rfl, hother'⟩ := getElem?_concat_cases hk
    · exact h.apart m k other hm hk
    · exact absurd (Option.some.inj hother') (hne hm)
    · exact absurd (Option.some.inj hother) (hne hk)
    · rfl
  · rw [List.lookup_append]
    obtain hm | ⟨rfl, hother⟩ := getElem?_concat_cases hm
    · have hkept : (queues.filter (·.1 != feed)).lookup other = some m :=
        lookup_filter (h.queued rfl hm) (by simpa using hne hm)
      rw [hkept]
      rfl
    · obtain rfl := Option.some.inj hother
      have hlost : (queues.filter (·.1 != other)).lookup other = none := by
        apply List.lookup_eq_none_iff.mpr
        intro q hq
        exact bne_iff_ne.mpr (bne_iff_ne.mp (List.mem_filter.mp hq).2).symm
      rw [hlost]
      simp
  · rcases List.mem_append.mp hmem with hmem | hmem
    · have hm := h.listed (List.mem_filter.mp hmem).1
      rwa [List.getElem?_append_left (List.getElem?_eq_some_iff.mp hm).1]
    · obtain ⟨rfl, rfl⟩ := Prod.mk.inj (List.mem_singleton.mp hmem)
      exact List.getElem?_concat_length

/-- A worker goes, and its queue with it. -/
theorem leave (h : Staffing roster queues awaited) :
    Staffing (roster.set n none) (queues.filter (·.2 != n)) awaited := by
  have hset {m : Nat} {feed : String} (hm : (roster.set n none)[m]? = some (some feed)) :
      n ≠ m ∧ roster[m]? = some (some feed) := by
    obtain ⟨-, hnone⟩ | ⟨hne, hm⟩ := getElem?_set_cases hm
    · cases hnone
    · exact ⟨hne.symm, hm⟩
  refine ⟨fun m k feed hm hk => ?_, fun {m feed} hopen hm => ?_, fun {m feed} hmem => ?_,
    fun {ns} hclosed => ⟨?_, fun m feed hm => ?_⟩⟩
  · exact h.apart m k feed (hset hm).2 (hset hk).2
  · exact lookup_filter (h.queued hopen (hset hm).2) (bne_iff_ne.mpr (hset hm).1.symm)
  · obtain ⟨hmem, hne⟩ := List.mem_filter.mp hmem
    rw [List.getElem?_set_ne (bne_iff_ne.mp hne).symm]
    exact h.listed hmem
  · rw [(h.closed hclosed).1]
    rfl
  · exact (h.closed hclosed).2 m feed (hset hm).2

theorem close (h : Staffing roster queues none) :
    Staffing roster [] (some (queues.map (·.2))) := by
  refine ⟨h.apart, nofun, nofun, fun {ns} hclosed => ⟨rfl, fun n feed hn => ?_⟩⟩
  obtain rfl := Option.some.inj hclosed
  obtain ⟨before, after, rfl, -⟩ := List.lookup_eq_some_iff.mp (h.queued rfl hn)
  exact List.mem_map.mpr ⟨_, List.mem_append_right _ (.head _), rfl⟩

end Staffing

variable {log : List Sight} {travelling : List (Ticket × Nat)} {next : Nat} {t u : Ticket}

/-- Each event that was submitted has a number of its own, and is accepted or on its way. -/
structure Books (log : List Sight) (next : Nat) (travelling : List (Ticket × Nat)) : Prop where
  numbers : (tickets .submitted log).map (·.number) = List.range next
  whereabouts : (tickets .submitted log).Perm (tickets .accepted log ++ travelling.map (·.1))

namespace Books

theorem empty : Books [] 0 [] := ⟨rfl, .nil⟩

theorem nodup (h : Books log next travelling) :
    ((tickets .accepted log ++ travelling.map (·.1)).map (·.number)).Nodup :=
  (h.whereabouts.map _).nodup_iff.mp (h.numbers ▸ List.nodup_range)

theorem nodup_accepted (h : Books log next travelling) : (tickets .accepted log).Nodup :=
  h.nodup.of_map.of_append_left

theorem number_lt (h : Books log next travelling) (ht : t ∈ tickets .accepted log) :
    t.number < next := by
  have hmem : t ∈ tickets .submitted log :=
    h.whereabouts.mem_iff.mpr (List.mem_append_left _ ht)
  exact List.mem_range.mp (h.numbers ▸ List.mem_map_of_mem hmem)

theorem submit (h : Books log next travelling) (e : Event.Input) (n : Nat) :
    Books (log ++ [⟨.submitted, ⟨next, e⟩⟩]) (next + 1) (travelling ++ [(⟨next, e⟩, n)]) where
  numbers := by
    rw [tickets_append, tickets_singleton, if_pos rfl, List.map_append, h.numbers,
      List.range_succ]
    rfl
  whereabouts := by
    simpa using h.whereabouts.append_right [⟨next, e⟩]

/-- There is one event on its way with a given number. -/
theorem split (h : Books log next travelling) {n : Nat}
    (hfind : travelling.find? (·.1.number == t.number) = some (t, n)) :
    ∃ before after, travelling = before ++ (t, n) :: after ∧
      travelling.filter (·.1.number != t.number) = before ++ after := by
  obtain ⟨-, before, after, rfl, -⟩ := List.find?_eq_some_iff_append.mp hfind
  refine ⟨before, after, rfl, ?_⟩
  have hkeys : ((before ++ (t, n) :: after).map fun p => p.1.number).Nodup := by
    have hnodup := h.nodup
    rw [List.map_append, List.map_map] at hnodup
    exact hnodup.of_append_right
  rw [List.map_append, List.map_cons, List.nodup_middle, ← List.map_append] at hkeys
  have hothers : ∀ p ∈ before ++ after, (p.1.number != t.number) = true := fun p hp =>
    bne_iff_ne.mpr fun he => (List.nodup_cons.mp hkeys).1 (he ▸ List.mem_map_of_mem hp)
  rw [List.filter_append, List.filter_cons_of_neg (by simp), ← List.filter_append,
    List.filter_eq_self.mpr hothers]

theorem accept {before after : List (Ticket × Nat)} {n : Nat}
    (h : Books log next (before ++ (t, n) :: after)) :
    Books (log ++ [⟨.accepted, t⟩]) next (before ++ after) where
  numbers := by simpa using h.numbers
  whereabouts := by
    have hperm := h.whereabouts
    simp only [List.map_append, List.map_cons] at hperm
    have hmoved := hperm.trans (List.perm_middle.append_left (tickets .accepted log))
    simpa using hmoved

theorem other (h : Books log next travelling) {sights : List Sight}
    (hnone : tickets .submitted sights = [] ∧ tickets .accepted sights = []) :
    Books (log ++ sights) next travelling where
  numbers := by simpa [hnone.1] using h.numbers
  whereabouts := by simpa [hnone.1, hnone.2] using h.whereabouts

end Books

/-- One thing comes before another in a list. -/
def Precedes {α : Type} (l : List α) (x y : α) : Prop := [x, y].Sublist l

theorem Precedes.mem {α : Type} {l : List α} {x y : α} (h : Precedes l x y) : x ∈ l :=
  h.subset (.head _)

theorem Precedes.append {α : Type} {l : List α} {x y : α} (h : Precedes l x y) (l' : List α) :
    Precedes (l ++ l') x y :=
  h.trans (List.sublist_append_left _ _)

theorem Precedes.filter {α : Type} {l : List α} {x y : α} (h : Precedes l x y) {p : α → Bool}
    (hx : p x = true) (hy : p y = true) : Precedes (l.filter p) x y := by
  have hkept := List.Sublist.filter p h
  rwa [List.filter_cons_of_pos hx, List.filter_cons_of_pos hy] at hkept

theorem precedes_concat {α : Type} {l : List α} {x y z : α} :
    Precedes (l ++ [z]) x y ↔ Precedes l x y ∨ x ∈ l ∧ y = z := by
  constructor
  · intro h
    obtain ⟨l₁, l₂, hsplit, h₁, h₂⟩ := List.sublist_append_iff.mp h
    rcases List.sublist_singleton.mp h₂ with rfl | rfl
    · rw [List.append_nil] at hsplit
      subst hsplit
      exact .inl h₁
    · have hsplit : [x] ++ [y] = l₁ ++ [z] := hsplit
      obtain ⟨rfl, hz⟩ := List.append_inj' hsplit rfl
      exact .inr ⟨List.singleton_sublist.mp h₁, List.singleton_inj.mp hz⟩
  · rintro (h | ⟨hx, rfl⟩)
    · exact h.append _
    · exact (List.singleton_sublist.mpr hx).append (.refl [y])

theorem Precedes.mem_of_nodup {α : Type} {l l' : List α} {x y : α}
    (h : Precedes (l ++ y :: l') x y) (hnodup : (l ++ y :: l').Nodup) : x ∈ l := by
  have hlast : y ∉ l' := (List.nodup_cons.mp hnodup.of_append_right).1
  obtain ⟨l₁, l₂, hsplit, h₁, h₂⟩ := List.sublist_append_iff.mp h
  cases l₁ with
  | cons z rest =>
      obtain ⟨rfl, -⟩ := List.cons.inj hsplit
      exact h₁.subset (.head _)
  | nil =>
      rw [List.nil_append] at hsplit
      rw [← hsplit] at h₂
      cases h₂ with
      | cons _ h₂ => exact absurd (h₂.subset (.tail _ (.head _))) hlast
      | cons_cons _ h₂ => exact absurd (h₂.subset (.head _)) hlast

theorem Precedes.of_append {α : Type} {l l' : List α} {x y : α} (h : Precedes (l ++ l') x y)
    (hy : y ∉ l') : Precedes l x y := by
  obtain ⟨l₁, l₂, hsplit, h₁, h₂⟩ := List.sublist_append_iff.mp h
  rcases List.eq_nil_or_concat l₂ with rfl | ⟨rest, z, rfl⟩
  · rw [List.append_nil] at hsplit
    subst hsplit
    exact h₁
  · rw [List.concat_eq_append, ← List.append_assoc] at hsplit
    have hsplit : [x] ++ [y] = l₁ ++ rest ++ [z] := hsplit
    obtain ⟨-, hz⟩ := List.append_inj' hsplit rfl
    obtain rfl := List.singleton_inj.mp hz
    exact absurd (h₂.subset (by simp)) hy

theorem Precedes.not_symm {α : Type} {l : List α} {x y : α} (h : Precedes l x y)
    (hnodup : l.Nodup) : ¬ Precedes l y x := by
  intro h'
  obtain ⟨front, back, rfl⟩ := List.append_of_mem h.mem
  obtain ⟨front, between, rfl⟩ := List.append_of_mem (h'.mem_of_nodup hnodup)
  rw [List.append_assoc, List.cons_append] at h hnodup
  have hx := h.mem_of_nodup hnodup
  have hx' : x ∈ y :: (between ++ x :: back) := .tail _ (List.mem_append_right _ (.head _))
  exact List.disjoint_of_nodup_append hnodup hx hx'

theorem Precedes.of_initial {α : Type} {l l' : List α} {x y : α} (h : Precedes l x y)
    (hinitial : l' <+: l) (hy : y ∈ l') (hnodup : l.Nodup) : Precedes l' x y := by
  obtain ⟨rest, rfl⟩ := hinitial
  obtain ⟨front, back, rfl⟩ := List.append_of_mem hy
  rw [List.append_assoc, List.cons_append] at h hnodup
  have hx := h.mem_of_nodup hnodup
  exact (List.singleton_sublist.mpr hx).append (List.singleton_sublist.mpr (.head _))

/-- An event that is submitted after another one was accepted gets behind it, and is not started
before that one has been handled. -/
structure InOrder (log : List Sight) : Prop where
  behind {t u : Ticket} : Precedes log ⟨.accepted, t⟩ ⟨.submitted, u⟩ →
    u ∈ tickets .accepted log → Precedes (tickets .accepted log) t u
  inTurn {pre post : List Sight} {t u : Ticket} : log = pre ++ ⟨.started, u⟩ :: post →
    Precedes log ⟨.accepted, t⟩ ⟨.submitted, u⟩ → t.event.feed = u.event.feed →
    ⟨.finished, t⟩ ∈ pre

namespace InOrder

theorem concat (h : InOrder log) (x : Sight)
    (hnew : x.stage = .submitted → x.ticket ∉ tickets .accepted log)
    (hnew' : x.stage = .submitted → x.ticket ∉ tickets .started log)
    (hstart : x.stage = .started → ∀ t, Precedes log ⟨.accepted, t⟩ ⟨.submitted, x.ticket⟩ →
      t.event.feed = x.ticket.event.feed → ⟨.finished, t⟩ ∈ log) : InOrder (log ++ [x]) := by
  constructor
  case behind =>
    intro t u hbefore hu
    rcases precedes_concat.mp hbefore with hold | ⟨-, rfl⟩
    · rw [tickets_append, List.mem_append] at hu
      rcases hu with hu | hu
      · rw [tickets_append]
        exact (h.behind hold hu).append _
      · obtain rfl := List.mem_singleton.mp (mem_tickets.mp hu)
        rw [tickets_append]
        exact precedes_concat.mpr (.inr ⟨mem_tickets.mpr hold.mem, rfl⟩)
    · rw [tickets_append, tickets_singleton, if_neg nofun, List.append_nil] at hu
      exact absurd hu (hnew rfl)
  case inTurn =>
    intro pre post t u hsplit hbefore hfeed
    rcases List.eq_nil_or_concat post with rfl | ⟨post, y, rfl⟩
    · obtain ⟨rfl, hx⟩ := List.append_inj' hsplit rfl
      obtain rfl := List.singleton_inj.mp hx
      refine hstart rfl t ?_ hfeed
      exact (precedes_concat.mp hbefore).elim id fun hu => nomatch hu.2
    · rw [List.concat_eq_append, ← List.cons_append, ← List.append_assoc] at hsplit
      obtain ⟨hlog, -⟩ := List.append_inj' hsplit rfl
      rcases precedes_concat.mp hbefore with hold | ⟨-, rfl⟩
      · exact h.inTurn hlog hold hfeed
      · refine absurd (mem_tickets.mpr ?_) (hnew' rfl)
        rw [hlog]
        exact List.mem_append_right _ (.head _)

theorem submit (h : InOrder log) (hnew : t ∉ tickets .accepted log)
    (hnew' : t ∉ tickets .started log) : InOrder (log ++ [⟨.submitted, t⟩]) :=
  h.concat _ (fun _ => hnew) (fun _ => hnew') nofun

theorem accept (h : InOrder log) (t : Ticket) : InOrder (log ++ [⟨.accepted, t⟩]) :=
  h.concat _ nofun nofun nofun

/-- An event is started in its turn when all before it have been handled. -/
theorem start (h : InOrder log)
    (hturn : ∀ t, Precedes log ⟨.accepted, t⟩ ⟨.submitted, u⟩ → t.event.feed = u.event.feed →
      ⟨.finished, t⟩ ∈ log) : InOrder (log ++ [⟨.started, u⟩]) :=
  h.concat _ nofun nofun fun _ => hturn

theorem finish (h : InOrder log) (t : Ticket) : InOrder (log ++ [⟨.finished, t⟩]) :=
  h.concat _ nofun nofun nofun

end InOrder

end Newswire.Dispatch
