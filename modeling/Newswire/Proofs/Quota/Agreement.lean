import Newswire.Proofs.Quota.Refusals

/-!
# Two keepers of reservations

A notebook and a ledger of which the same is asked at whole milliseconds give the same answers, as
long as no limit has a window of no seconds. Each page of the notebook then holds what the rows of
its feed hold, in their order, and both give out the same number next. Of a window of no seconds the
ledger does not see the reservation that it has just entered, so that it allows one more than the
notebook does.
-/

namespace Newswire.Quota

namespace Ledger

theorem countSince_le (g : Ledger) (feed connection : String) {since cutoff : Int}
    (h : cutoff ≤ since) :
    g.countSince feed (some connection) since ≤ g.countSince feed none cutoff := by
  rw [countSince, countSince, ← List.countP_eq_length_filter, ← List.countP_eq_length_filter]
  refine List.countP_mono_left fun r _ hr => ?_
  simp only [concerns, Bool.and_eq_true, decide_eq_true_eq] at hr
  simp only [concerns, hr.1.1, Option.all_none, Bool.and_self, Bool.true_and, decide_eq_true_eq]
  exact Int.lt_of_le_of_lt h hr.2

/-- Where the day has room and the connection has no limits, a delivery is allowed. -/
theorem reserve_of_room {g : Ledger} {feed : String} {now : Instant} {daily : Nat}
    (h : g.countSince feed none (dayStart now).millis < daily) (connection : String) :
    g.reserve feed connection { daily } now =
      (.allowed (g.last + 1), g.enter feed connection now.millis) := by
  rw [reserve]
  dsimp only
  rw [countSince_enter_of_lt (millis_dayStart_lt now), if_neg (Nat.not_lt.mpr h)]
  rfl

/-- A reservation does not count in a window that ends where it starts. -/
theorem reserve_of_window_eq_zero {g : Ledger} {feed connection : String} {now : Instant}
    {daily : Nat} {l : RateLimit} (hl : l.window = 0) (hnow : RateLimit.firstMoment ≤ now)
    (hroom : g.countSince feed none (dayStart now).millis < daily)
    (hused : g.countSince feed (some connection) now.millis ≤ l.limit) :
    (g.reserve feed connection { daily, connection := [l] } now).1 = .allowed (g.last + 1) := by
  have hunseen : (g.enter feed connection now.millis).countSince feed (some connection) now.millis =
      g.countSince feed (some connection) now.millis := by
    rw [countSince_enter, if_neg fun h => Int.lt_irrefl _ h.2.2, Nat.add_zero]
  have hexceeded : (g.enter feed connection now.millis).exceeded feed connection now [l] = none := by
    rw [exceeded, List.find?_singleton, RateLimit.start_of_window_eq_zero hl hnow, hunseen]
    simpa using hused
  rw [reserve]
  dsimp only
  rw [countSince_enter_of_lt (millis_dayStart_lt now), if_neg (Nat.not_lt.mpr hroom), hexceeded]
  rfl

/-- Both tests say the same of a limit if its window does not end where it starts, or if it leaves
more room than the day, which still has some. -/
theorem isFull_eq {g : Ledger} {feed connection : String} {now : Instant} {daily : Nat}
    {l : RateLimit} (hnow : RateLimit.firstMoment < now) (hwhole : now.stored = now)
    (hroom : g.countSince feed none (dayStart now).millis < daily)
    (hl : l.window ≠ 0 ∨ daily ≤ l.limit) :
    isFull l now (g.countSince feed (some connection) (l.start now).millis) =
      Notebook.isFull l now (g.countSince feed (some connection) (l.start now).millis) := by
  refine decide_eq_decide.mpr ?_
  by_cases hstart : (l.start now).millis < now.millis
  · rw [if_pos hstart]
    exact Nat.lt_succ_iff
  -- The window does not see the entry, but the day has room and bounds what it holds.
  · have hlimit : daily ≤ l.limit := hl.resolve_left fun hw =>
      hstart (Instant.millis_lt.mpr (lt_of_lt_of_eq (l.start_lt hw hnow) hwhole.symm))
    have hcount : g.countSince feed (some connection) (l.start now).millis ≤
        g.countSince feed none (dayStart now).millis :=
      g.countSince_le feed connection
        (Int.le_trans (Int.le_of_lt (millis_dayStart_lt now)) (Int.not_lt.mp hstart))
    rw [if_neg hstart]
    omega

/-- A table in whole milliseconds that takes a limit to be full as a notebook does. -/
def strictWays : Ways := { ways with isFull := Notebook.isFull }

theorem answer_eq_answerBy_strictWays (g : Ledger) {q : Request} (hq : q.IsTimely)
    (hwhole : q.IsWhole) (hlimits : ∀ limits ∈ q.limits?, ∀ l ∈ limits.connection,
      l.window ≠ 0 ∨ limits.daily ≤ l.limit) :
    g.answer q = g.answerBy strictWays q := by
  rw [answer_eq_answerBy]
  cases q with
  | reserve feed connection limits now =>
      have hnow := firstMoment_lt (isTimely_reserve.mp hq)
      have hrefusal : g.refusal ways feed connection limits now =
          g.refusal strictWays feed connection limits now := by
        refine refusal_congr rfl fun hroom l hl => ?_
        exact isFull_eq hnow (hwhole now rfl) hroom (hlimits limits rfl l hl)
      rw [answerBy, answerBy, hrefusal]
      rfl
  | _ => rfl

/-- The table with its times in nanoseconds. -/
def inNanos (g : Ledger) : Ledger :=
  { g with rows := g.rows.map fun r => { r with time := r.time * 1000000 } }

section InNanos

variable {t : Instant}

theorem countSince_inNanos (ht : t.stored = t) (g : Ledger) (feed : String)
    (through : Option String) :
    g.inNanos.countSince feed through t.nanos = g.countSince feed through t.millis := by
  rw [countSince, inNanos, List.filter_map, List.length_map, countSince]
  refine congrArg List.length (List.filter_congr fun r _ => ?_)
  have hlt : t.nanos < r.time * 1000000 ↔ t.millis < r.time := by
    rw [Instant.nanos_of_stored_eq ht]
    omega
  exact congrArg (concerns feed through r && ·) (decide_eq_decide.mpr hlt)

theorem inNanos_enter (ht : t.stored = t) (g : Ledger) (feed connection : String) :
    (g.enter feed connection t.millis).inNanos = g.inNanos.enter feed connection t.nanos := by
  rw [Instant.nanos_of_stored_eq ht]
  simp [inNanos, enter]

theorem inNanos_remove (g : Ledger) (test test' : Reservation → Bool)
    (htest : ∀ r, test' { r with time := r.time * 1000000 } = test r) :
    g.inNanos.remove test' = ((g.remove test).1, (g.remove test).2.inNanos) := by
  have hrows (p p' : Reservation → Bool) (hp : ∀ r, p' { r with time := r.time * 1000000 } = p r) :
      g.inNanos.rows.filter p' = (inNanos { g with rows := g.rows.filter p }).rows :=
    List.filter_map.trans (congrArg _ (List.filter_congr fun r _ => hp r))
  rw [remove, hrows test test' htest, hrows _ _ fun r => congrArg (! ·) (htest r)]
  exact congrArg (·, _) (List.length_map _)

/-- At whole milliseconds it does not matter in which of the two a table tells the time. -/
theorem answerBy_inNanos (g : Ledger) {q : Request} (hq : q.IsWhole) :
    g.inNanos.answerBy Notebook.ways q =
      ((g.answerBy strictWays q).1, (g.answerBy strictWays q).2.inNanos) := by
  cases q with
  | reserve feed connection limits now =>
      have hnow : now.stored = now := hq now rfl
      have hday : (dayStart now).stored = dayStart now := by rw [← dayStart_stored, hnow]
      have hrefusal : g.inNanos.refusal Notebook.ways feed connection limits now =
          g.refusal strictWays feed connection limits now := by
        refine refusal_congr (countSince_inNanos hday g feed none) fun _ l _ => ?_
        have hstart : (l.start now).stored = l.start now := by
          rw [← RateLimit.start_stored, hnow]
        exact congrArg (Notebook.isFull l now)
          (countSince_inNanos hstart g feed (some connection))
      rw [answerBy, answerBy, hrefusal]
      cases g.refusal strictWays feed connection limits now with
      | some d => rfl
      | none => exact congrArg (Prod.mk _) (g.inNanos_enter hnow feed connection).symm
  | release id => exact congrArg (Prod.mk _) (congrArg Prod.snd (g.inNanos_remove _ _ fun r => rfl))
  | count feed through since =>
      exact congrArg (Answer.number · , _) (countSince_inNanos (hq since rfl) ..)
  | remaining feed daily now =>
      have hnow : now.stored = now := hq now rfl
      have hday : (dayStart now).stored = dayStart now := by rw [← dayStart_stored, hnow]
      exact congrArg (fun n => (Answer.number (room daily n), _)) (countSince_inNanos hday ..)
  | prune before =>
      have hbefore : before.nanos = before.millis * 1000000 :=
        Instant.nanos_of_stored_eq (hq before rfl)
      have hremove := g.inNanos_remove (·.time < before.millis) (·.time < before.nanos)
        fun r => decide_eq_decide.mpr (by dsimp only; omega)
      exact congrArg (fun r : Nat × Ledger => (Answer.number r.1, r.2)) hremove
  | purge feed =>
      have hremove := g.inNanos_remove (·.feed == feed) (·.feed == feed) fun _ => rfl
      exact congrArg (fun r : Nat × Ledger => (Answer.number r.1, r.2)) hremove

end InNanos

end Ledger

namespace Mirrors

variable {b : Notebook} {g : Ledger}

/-- Both give the same answer and stand for the same reservations after it. -/
theorem answer (h : Mirrors b g.inNanos) {q : Request} (hq : q.IsTimely) (hwhole : q.IsWhole)
    (hlimits : ∀ limits ∈ q.limits?, ∀ l ∈ limits.connection,
      l.window ≠ 0 ∨ limits.daily ≤ l.limit) :
    (b.answer q).1 = (g.answer q).1 ∧ Mirrors (b.answer q).2 (g.answer q).2.inNanos := by
  have hanswer := h.answerBy q
  rw [g.answerBy_inNanos hwhole] at hanswer
  rw [g.answer_eq_answerBy_strictWays hq hwhole hlimits]
  exact hanswer

theorem empty_inNanos : Mirrors {} (Ledger.inNanos {}) := empty

theorem answers (h : Mirrors b g.inNanos) {qs : List Request}
    (hq : ∀ q ∈ qs, q.IsTimely ∧ q.IsWhole)
    (hlimits : ∀ q ∈ qs, ∀ limits ∈ q.limits?, ∀ l ∈ limits.connection,
      l.window ≠ 0 ∨ limits.daily ≤ l.limit) :
    answers Notebook.answer b qs = answers Ledger.answer g qs ∧
      Mirrors (afterwards Notebook.answer b qs) (afterwards Ledger.answer g qs).inNanos := by
  induction qs generalizing b g with
  | nil => exact ⟨rfl, h⟩
  | cons q rest ih =>
      obtain ⟨htimely, hwhole⟩ := hq q List.mem_cons_self
      obtain ⟨ha, hm⟩ := h.answer htimely hwhole (hlimits q List.mem_cons_self)
      obtain ⟨hrest, hafter⟩ := ih hm (fun p hp => hq p (List.mem_cons_of_mem _ hp))
        fun p hp => hlimits p (List.mem_cons_of_mem _ hp)
      exact ⟨congrArg₂ List.cons ha hrest, hafter⟩

end Mirrors

/-- As many reservations as a limit allows, and one more a moment before them, under the limit. -/
def probe (l : RateLimit) : List Request :=
  List.replicate l.limit (.reserve "f" "c" { daily := l.limit + 1 } (.ofMillis 1)) ++
    [.reserve "f" "c" { daily := l.limit + 1, connection := [l] } (.ofMillis 0)]

theorem forall_mem_probe {l : RateLimit} {P : Request → Prop}
    (hfill : P (.reserve "f" "c" { daily := l.limit + 1 } (.ofMillis 1)))
    (hlast : P (.reserve "f" "c" { daily := l.limit + 1, connection := [l] } (.ofMillis 0))) :
    ∀ q ∈ probe l, P q := by
  intro q hq
  rcases List.mem_append.mp hq with hq | hq
  · exact List.eq_of_mem_replicate hq ▸ hfill
  · exact List.mem_singleton.mp hq ▸ hlast

theorem countSince_replicate {daily n : Nat} (hn : n ≤ daily) (feed connection : String)
    (now : Instant) (other : String) (through : Option String) (since : Int) :
    Ledger.countSince
        (afterwards Ledger.answer {} (List.replicate n (.reserve feed connection { daily } now)))
        other through since =
      if feed = other ∧ through.all (connection == ·) = true ∧ since < now.millis then n else 0 := by
  induction n generalizing other through since with
  | zero => simp [afterwards, Ledger.countSince]
  | succ n ih =>
      have hroom := ih (Nat.le_of_succ_le hn) feed none (dayStart now).millis
      rw [if_pos ⟨rfl, rfl, millis_dayStart_lt now⟩] at hroom
      rw [List.replicate_succ', afterwards_append]
      change Ledger.countSince (Ledger.reserve _ feed connection { daily } now).2 other through
        since = _
      rw [Ledger.reserve_of_room (Nat.lt_of_le_of_lt (Nat.le_of_eq hroom) hn),
        Ledger.countSince_enter, ih (Nat.le_of_succ_le hn)]
      split <;> rfl

/-- Where the window has no seconds, the notebook refuses the last of these and the ledger allows
it. -/
theorem answers_probe_ne {l : RateLimit} (h : l.window = 0) :
    answers Notebook.answer {} (probe l) ≠ answers Ledger.answer {} (probe l) := by
  intro heq
  let fill : Request := .reserve "f" "c" { daily := l.limit + 1 } (.ofMillis 1)
  have hfill : ∀ q ∈ List.replicate l.limit fill, (q.IsTimely ∧ q.IsWhole) ∧
      ∀ limits ∈ q.limits?, ∀ m ∈ limits.connection, m.window ≠ 0 ∨ limits.daily ≤ m.limit := by
    intro q hq
    rw [List.eq_of_mem_replicate hq]
    refine ⟨⟨isTimely_reserve.mpr (by decide), isWhole_reserve.mpr rfl⟩, ?_⟩
    intro limits hlimits
    obtain rfl := Option.some.inj hlimits
    exact nofun
  obtain ⟨hsame, hmirrors⟩ :=
    Mirrors.empty_inNanos.answers (fun q hq => (hfill q hq).1) fun q hq => (hfill q hq).2
  rw [probe, answers_append, answers_append, hsame, List.append_cancel_left_eq] at heq
  have hcount := countSince_replicate (Nat.le_succ l.limit) "f" "c" (.ofMillis 1) "f"
  generalize afterwards Ledger.answer {} _ = g at heq hmirrors hcount
  generalize afterwards Notebook.answer {} _ = b at heq hmirrors
  let now : Instant := .ofMillis 0
  have hday : g.countSince "f" none (dayStart now).millis = l.limit :=
    hcount none (dayStart now).millis
  have hused : g.countSince "f" (some "c") now.millis = l.limit := hcount (some "c") now.millis
  have hstart : l.start now = now := RateLimit.start_of_window_eq_zero h (by decide)
  have hledger : (g.reserve "f" "c" { daily := l.limit + 1, connection := [l] } now).1 =
      .allowed (g.last + 1) :=
    Ledger.reserve_of_window_eq_zero h (by decide) (Nat.lt_succ_of_le (Nat.le_of_eq hday))
      (Nat.le_of_eq hused)
  have hnotebook : (b.reserve "f" "c" { daily := l.limit + 1, connection := [l] } now).1 =
      .limitExceeded l.id := by
    apply Notebook.reserve_of_used
    · rw [hmirrors.count, Ledger.countSince_inNanos rfl, hday]
      exact Nat.lt_succ_self _
    · rw [hmirrors.count, hstart, Ledger.countSince_inNanos rfl, hused]
  have hdecisions : Answer.decision (.limitExceeded l.id) = .decision (.allowed (g.last + 1)) := by
    rw [← hledger, ← hnotebook]
    exact (List.cons.inj heq).1
  cases hdecisions

/-- The two keepers give the same answers to all requests at whole milliseconds, under limits of a
kind and under day limits up to `most`, exactly when no limit of that kind has a window of no
seconds, unless it leaves as much room as a day. -/
theorem answers_agree_iff (kind : RateLimit → Prop) (most : Nat) :
    (∀ qs : List Request, (∀ q ∈ qs, (q.IsTimely ∧ q.IsWhole) ∧ ∀ limits ∈ q.limits?,
        limits.daily ≤ most ∧ ∀ l ∈ limits.connection, kind l) →
      answers Notebook.answer {} qs = answers Ledger.answer {} qs) ↔
    ∀ l, kind l → l.window ≠ 0 ∨ most ≤ l.limit := by
  constructor
  · intro h l hl
    by_contra hc
    simp only [not_or, not_not, Nat.not_le] at hc
    refine answers_probe_ne hc.1 (h (probe l) (forall_mem_probe ?_ ?_))
    · refine ⟨⟨isTimely_reserve.mpr (by decide), isWhole_reserve.mpr rfl⟩, ?_⟩
      intro limits hlimits
      obtain rfl := Option.some.inj hlimits
      exact ⟨hc.2, nofun⟩
    · refine ⟨⟨isTimely_reserve.mpr (by decide), isWhole_reserve.mpr rfl⟩, ?_⟩
      intro limits hlimits
      obtain rfl := Option.some.inj hlimits
      exact ⟨hc.2, fun m hm => List.mem_singleton.mp hm ▸ hl⟩
  · intro h qs hqs
    refine (Mirrors.empty_inNanos.answers (fun q hq => (hqs q hq).1) ?_).1
    intro q hq limits hlimits l hl
    obtain ⟨hdaily, hkind⟩ := (hqs q hq).2 limits hlimits
    exact (h l (hkind l hl)).imp_right (Nat.le_trans hdaily)

/-- A limit that allows nothing within no seconds, asked for once. -/
def emptyWindow : List Request :=
  [.reserve "f" "c" { daily := 100, connection := [{ id := "w" }] } (.ofMillis 0)]

/-- The notebook refuses what the ledger allows. -/
theorem emptyWindow_told_apart :
    answers Notebook.answer {} emptyWindow = [.decision (.limitExceeded "w")] ∧
      answers Ledger.answer {} emptyWindow = [.decision (.allowed 1)] := by
  decide

end Newswire.Quota
