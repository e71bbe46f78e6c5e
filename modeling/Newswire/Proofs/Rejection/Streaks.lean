import Mathlib.Data.List.DropRight
import Newswire.Proofs.Execution
import Newswire.Proofs.Rejection.Counters

/-!
# Streaks of rejections

The counter of a scope tells how many rejections of it were counted since the counters of its feed
were last cleared. In such a streak disabling is asked for once, by the rejection that brings the
counter to the threshold, and not at all as long as the streak is shorter.
-/

namespace Newswire

theorem Rejection.parse_code (r : Rejection) : parse r.code = .ok r := by
  cases r <;> rfl

theorem Rejection.code_of_parse {code : String} {r : Rejection} (h : parse code = .ok r) :
    code = r.code := by
  unfold parse at h
  split at h
  · next x hx =>
      cases h
      have hcode := List.find?_some hx
      exact (beq_iff_eq.mp hcode).symm
  · cases h

theorem Rejection.code_injective : Function.Injective code := by
  intro x y h
  have hxy : parse x.code = parse y.code := congrArg parse h
  rw [parse_code, parse_code] at hxy
  exact Except.ok.inj hxy

/-- A code that no rejection has is an error. -/
theorem Rejection.parse_of_unknown {code : String}
    (h : ∀ r : Rejection, code ≠ Rejection.code r) :
    parse code = .error (.unknownRejection code) := by
  cases hp : parse code with
  | ok r => exact absurd (code_of_parse hp) (h r)
  | error err =>
      unfold parse at hp
      split at hp
      · cases hp
      · exact hp.symm

namespace Backoff

/-- What is told to the counters: a rejection, one that is given by its code, a run without
rejections, or that a feed is no longer there. -/
inductive Notice where
  | rejected (feed : String) (scope : Scope) (r : Rejection) (now : Instant)
  | coded (feed : String) (scope : Scope) (code : String) (now : Instant)
  | succeeded (feed : String) (now : Instant)
  | removed (feed : String)
  deriving Repr, DecidableEq

namespace Notice

/-- Takes note of it, and gives the request to disable that it leads to. -/
def take (threshold : Nat) : Notice → Run (Option DisableRequest)
  | rejected feed scope r now =>
    Run.store "retry increment" (register threshold feed scope r now)
  | coded feed scope code now => Run.registerCode threshold feed scope code now
  | succeeded feed now => do
    Run.store "retry reset" (succeed feed now)
    return none
  | removed feed => do
    let _ ← Run.store "retry purge" (Store.deleteCounters feed)
    return none

/-- The notice tells of a rejection of the scope, whatever its code. -/
def isAbout (feed : String) (scope : Scope) : Notice → Bool
  | rejected f s _ _ | coded f s _ _ => f == feed && s == scope
  | _ => false

/-- The notice tells of this rejection of the scope. -/
def Rejects (feed : String) (scope : Scope) (r : Rejection) : Notice → Prop
  | rejected f s x _ => f = feed ∧ s = scope ∧ x = r
  | coded f s code _ => f = feed ∧ s = scope ∧ code = r.code
  | _ => False

/-- The counters of the feed are to go back to zero. -/
def clears (feed : String) : Notice → Bool
  | succeeded f _ | removed f => f == feed
  | _ => false

variable {n : Notice} {feed other : String} {scope another : Scope} {r : Rejection}

theorem Rejects.isAbout_iff (h : n.Rejects feed scope r) :
    n.isAbout other another = true ↔ feed = other ∧ scope = another := by
  cases n with
  | rejected f s x now =>
      obtain ⟨rfl, rfl, rfl⟩ := h
      simp [isAbout]
  | coded f s code now =>
      obtain ⟨rfl, rfl, rfl⟩ := h
      simp [isAbout]
  | succeeded f now => exact h.elim
  | removed f => exact h.elim

theorem Rejects.unique {x : Rejection} (h : n.Rejects feed scope r) (hx : n.Rejects feed scope x) :
    x = r := by
  cases n with
  | rejected f s y now => exact hx.2.2.symm.trans h.2.2
  | coded f s code now => exact Rejection.code_injective (hx.2.2.symm.trans h.2.2)
  | succeeded f now => exact h.elim
  | removed f => exact h.elim

theorem Rejects.clears (h : n.Rejects feed scope r) : n.clears other = false := by
  cases n with
  | rejected f s x now => rfl
  | coded f s code now => rfl
  | succeeded f now => exact h.elim
  | removed f => exact h.elim

theorem clears_iff (h : n.clears feed = true) : n.clears other = true ↔ feed = other := by
  cases n with
  | rejected f s x now => cases h
  | coded f s code now => cases h
  | succeeded f now =>
      obtain rfl : f = feed := by simpa [clears] using h
      simp [clears]
  | removed f =>
      obtain rfl : f = feed := by simpa [clears] using h
      simp [clears]

theorem isAbout_of_clears (h : n.clears feed = true) : n.isAbout other another = false := by
  cases n with
  | rejected f s x now => cases h
  | coded f s code now => cases h
  | succeeded f now => rfl
  | removed f => rfl

end Notice

/-- A notice and the answer to it. -/
structure Entry where
  notice : Notice
  answer : Except Error (Option DisableRequest)

namespace Entry

/-- A rejection of the scope was counted. -/
def counts (feed : String) (scope : Scope) (e : Entry) : Bool :=
  e.notice.isAbout feed scope && e.answer.isOk

/-- The counters of the feed were cleared. -/
def clears (feed : String) (e : Entry) : Bool := e.notice.clears feed && e.answer.isOk

/-- It was asked to disable the scope. -/
def asks (feed : String) (scope : Scope) (e : Entry) : Bool :=
  match e.answer with
  | .ok (some d) => d.feed == feed && d.scope == scope
  | _ => false

end Entry

/-- What was told since the counters of the feed were last cleared. -/
def streak (feed : String) (log : List Entry) : List Entry := log.rtakeWhile (!·.clears feed)

/-- How many rejections of the scope were counted since the counters of its feed were last
cleared. -/
def tally (feed : String) (scope : Scope) (log : List Entry) : Nat :=
  (streak feed log).countP (Entry.counts feed scope)

/-- How often it was asked to disable the scope since the counters of its feed were last cleared. -/
def requests (feed : String) (scope : Scope) (log : List Entry) : Nat :=
  (streak feed log).countP (Entry.asks feed scope)

theorem countP_streak_concat (feed : String) (p : Entry → Bool) (log : List Entry) (e : Entry) :
    (streak feed (log ++ [e])).countP p =
      if e.clears feed then 0 else (streak feed log).countP p + if p e then 1 else 0 := by
  rw [streak, List.rtakeWhile_concat]
  cases e.clears feed with
  | true => rfl
  | false => simp [streak, List.countP_append, List.countP_singleton]

/-- What was told so far, and what is left. -/
structure Journal where
  log : List Entry := []
  world : World

/-- Takes one more note. -/
def Journal.tell (threshold : Nat) (around : Surroundings) (j : Journal) (n : Notice) : Journal :=
  let (answer, world) := carryOut around (n.take threshold) j.world
  ⟨j.log ++ [⟨n, answer⟩], world⟩

/-- Takes notes one after the other. -/
def journal (threshold : Nat) (around : Surroundings) (w : World) (ns : List Notice) : Journal :=
  ns.foldl (Journal.tell threshold around) { world := w }

/-- What a notice comes to: it has no effect, or a rejection is counted, or counters are cleared. -/
inductive Notice.Effect (threshold : Nat) (n : Notice) (cs : Counters) :
    Except Error (Option DisableRequest) → Counters → Prop
  | failed {err} : Effect threshold n cs (.error err) cs
  | counted {feed scope r now} (rejects : n.Rejects feed scope r) :
      Effect threshold n cs
        (.ok (disableRequest? threshold feed scope r (cs.attempts feed scope + 1)))
        (cs.increment feed scope now).2
  | cleared {feed cs'} (clears : n.clears feed = true)
      (zero : ∀ scope, cs'.attempts feed scope = 0)
      (kept : ∀ other, other ≠ feed → ∀ scope, cs'.attempts other scope = cs.attempts other scope) :
      Effect threshold n cs (.ok none) cs'

section Take

variable (threshold : Nat) (around : Surroundings) (w : World)

/-- A rejection of a connection with a blank identifier is refused before the counters are
reached. -/
theorem carryOut_register_of_blank (feed : String) {scope : Scope} (h : scope.isValid = false)
    (r : Rejection) (now : Instant) :
    carryOut around (Run.store "retry increment" (register threshold feed scope r now)) w =
      (.error (.invalid "connection id must not be empty"), w) := by
  rw [carryOut_store, register, carryOut_bind, Store.incrementCounter, Store.withScope,
    if_neg (by simp [h])]
  rfl

theorem carryOut_register_of_valid (feed : String) {scope : Scope} (h : scope.isValid = true)
    (r : Rejection) (now : Instant) :
    let cs := w.stores.counters
    carryOut around (Run.store "retry increment" (register threshold feed scope r now)) w =
      match around.conditions w.calls .incrementCounter with
      | some o => (.error (Store.Failure.error "retry increment" (.outage o)),
          { w with calls := w.calls + 1 })
      | none => (.ok (disableRequest? threshold feed scope r (cs.attempts feed scope + 1)),
          ⟨{ w.stores with counters := (cs.increment feed scope now.millis).2 }, w.calls + 1,
            w.sent⟩) := by
  intro cs
  rw [carryOut_store, register, carryOut_bind, Store.incrementCounter, Store.withScope, if_pos h,
    carryOut_call]
  cases around.conditions w.calls .incrementCounter with
  | some o => rfl
  | none =>
      simp only [← Counters.increment_fst cs feed scope now.millis]
      rfl

theorem carryOut_coded (feed : String) (scope : Scope) (code : String) (now : Instant) :
    carryOut around ((Notice.coded feed scope code now).take threshold) w =
      match Rejection.parse code with
      | .ok r => carryOut around ((Notice.rejected feed scope r now).take threshold) w
      | .error err => (.error err, w) := by
  simp only [Notice.take, Run.registerCode]
  rw [carryOut_bind]
  cases Rejection.parse code <;> rfl

theorem carryOut_succeeded (feed : String) (now : Instant) :
    carryOut around ((Notice.succeeded feed now).take threshold) w =
      match around.conditions w.calls .resetCounters with
      | some o => (.error (Store.Failure.error "retry reset" (.outage o)),
          { w with calls := w.calls + 1 })
      | none => (.ok none,
          ⟨{ w.stores with counters := (w.stores.counters.reset feed now.millis).2 }, w.calls + 1,
            w.sent⟩) := by
  simp only [Notice.take, succeed]
  rw [carryOut_bind, carryOut_store, carryOut_bind, Store.resetCounters, carryOut_call]
  cases around.conditions w.calls .resetCounters <;> rfl

theorem carryOut_removed (feed : String) :
    carryOut around ((Notice.removed feed).take threshold) w =
      match around.conditions w.calls .deleteCounters with
      | some o => (.error (Store.Failure.error "retry purge" (.outage o)),
          { w with calls := w.calls + 1 })
      | none => (.ok none, ⟨{ w.stores with counters := (w.stores.counters.delete feed).2 },
          w.calls + 1, w.sent⟩) := by
  simp only [Notice.take]
  rw [carryOut_bind, carryOut_store, Store.deleteCounters, carryOut_call]
  cases around.conditions w.calls .deleteCounters <;> rfl

end Take

/-- A notice has no effect, or a rejection is counted, or counters are cleared. -/
theorem Notice.effect (threshold : Nat) (around : Surroundings) (n : Notice) (w : World) :
    let result := carryOut around (n.take threshold) w
    n.Effect threshold w.stores.counters result.1 result.2.stores.counters := by
  have hregister (feed : String) (scope : Scope) (r : Rejection) (now : Instant)
      (hn : n.Rejects feed scope r) :
      let result := carryOut around
        (Run.store "retry increment" (register threshold feed scope r now)) w
      n.Effect threshold w.stores.counters result.1 result.2.stores.counters := by
    cases hs : scope.isValid with
    | false =>
        rw [carryOut_register_of_blank threshold around w feed hs]
        exact .failed
    | true =>
        rw [carryOut_register_of_valid threshold around w feed hs]
        cases around.conditions w.calls .incrementCounter with
        | some o => exact .failed
        | none => exact .counted hn
  cases n with
  | rejected feed scope r now => exact hregister feed scope r now ⟨rfl, rfl, rfl⟩
  | coded feed scope code now =>
      rw [carryOut_coded]
      cases hp : Rejection.parse code with
      | error err => exact .failed
      | ok r => exact hregister feed scope r now ⟨rfl, rfl, Rejection.code_of_parse hp⟩
  | succeeded feed now =>
      rw [carryOut_succeeded]
      cases around.conditions w.calls .resetCounters with
      | some o => exact .failed
      | none =>
          have hclears : (succeeded feed now).clears feed = true := beq_self_eq_true feed
          apply Effect.cleared hclears
          · exact fun scope => w.stores.counters.reset_attempts feed scope now.millis
          · exact fun other ho scope => w.stores.counters.reset_attempts_of_ne ho scope now.millis
  | removed feed =>
      rw [carryOut_removed]
      cases around.conditions w.calls .deleteCounters with
      | some o => exact .failed
      | none =>
          have hclears : (removed feed).clears feed = true := beq_self_eq_true feed
          apply Effect.cleared hclears
          · intro scope
            rw [Counters.delete_attempts, if_pos rfl]
          · intro other ho scope
            rw [Counters.delete_attempts, if_neg ho]

section Effect

variable {threshold : Nat} {cs cs' : Counters} {n : Notice}
  {answer : Except Error (Option DisableRequest)}

theorem Entry.counts_of_rejects {feed : String} {scope : Scope} {r : Rejection}
    (h : n.Rejects feed scope r) (d : Option DisableRequest) (other : String) (another : Scope) :
    counts other another ⟨n, .ok d⟩ = true ↔ feed = other ∧ scope = another := by
  rw [counts, Bool.and_eq_true, h.isAbout_iff]
  exact and_iff_left rfl

/-- A counter goes up with each rejection that is counted, and is at zero after the counters of its
feed were cleared. -/
theorem Notice.Effect.attempts (h : n.Effect threshold cs answer cs') (feed : String)
    (scope : Scope) :
    let e : Entry := ⟨n, answer⟩
    cs'.attempts feed scope =
      if e.clears feed then 0
      else cs.attempts feed scope + if e.counts feed scope then 1 else 0 := by
  intro e
  cases h with
  | failed => simp [e, Entry.clears, Entry.counts, Except.isOk, Except.toBool]
  | @counted f s r now rejects =>
      have hclears : e.clears feed = false := by simp [e, Entry.clears, rejects.clears]
      have hcounts : e.counts feed scope = true ↔ f = feed ∧ s = scope :=
        Entry.counts_of_rejects rejects _ feed scope
      rw [hclears]
      by_cases hsame : f = feed ∧ s = scope
      · rw [if_pos (hcounts.mpr hsame), ← hsame.1, ← hsame.2]
        exact cs.increment_attempts f s now
      · rw [if_neg (mt hcounts.mp hsame)]
        refine cs.increment_attempts_of_ne (fun hf hs => hsame ⟨hf.symm, hs.symm⟩) now
  | @cleared f _ clears zero kept =>
      have hclears : e.clears feed = true ↔ f = feed := by
        rw [Entry.clears, Bool.and_eq_true, Notice.clears_iff clears]
        exact and_iff_left rfl
      have hcounts : e.counts feed scope = false := by
        simp [e, Entry.counts, Notice.isAbout_of_clears clears]
      rw [hcounts]
      by_cases hf : f = feed
      · rw [if_pos (hclears.mpr hf), ← hf]
        exact zero scope
      · rw [if_neg (mt hclears.mp hf)]
        exact kept feed (Ne.symm hf) scope

/-- It is asked to disable a scope by the rejection that brings its counter to the threshold. -/
theorem Notice.Effect.asks_iff (h : n.Effect threshold cs answer cs') (feed : String)
    (scope : Scope) :
    let e : Entry := ⟨n, answer⟩
    e.asks feed scope = true ↔
      e.counts feed scope = true ∧ cs'.attempts feed scope = max threshold 1 := by
  intro e
  cases h with
  | failed => simp [e, Entry.asks, Entry.counts, Except.isOk, Except.toBool]
  | @counted f s r now rejects =>
      rw [Entry.counts_of_rejects rejects]
      have hasks : e.asks feed scope = true ↔
          (f = feed ∧ s = scope) ∧ cs.attempts f s + 1 = max threshold 1 := by
        simp only [e, Entry.asks, disableRequest?, effectiveThreshold]
        split_ifs with ht <;> simp [ht]
      rw [hasks]
      refine and_congr_right fun ⟨hf, hs⟩ => ?_
      rw [← hf, ← hs, cs.increment_attempts f s now]
  | cleared clears zero kept =>
      simp [e, Entry.asks, Entry.counts, Notice.isAbout_of_clears clears]

end Effect

/-- The counters tell how long the streaks are, and in each that is long enough disabling was asked
for once. -/
structure Consistent (threshold : Nat) (log : List Entry) (cs : Counters) : Prop where
  counted : ∀ feed scope, cs.attempts feed scope = tally feed scope log
  requested : ∀ feed scope,
    requests feed scope log = if max threshold 1 ≤ tally feed scope log then 1 else 0

theorem consistent_nil (threshold : Nat) {cs : Counters} (h : cs.rows = []) :
    Consistent threshold [] cs := by
  constructor
  · intro feed scope
    simp [Counters.attempts, Counters.get?, h, tally, streak]
  · intro feed scope
    simp [requests, tally, streak]

section Step

variable {threshold : Nat} {log : List Entry} {cs cs' : Counters} {n : Notice}
  {answer : Except Error (Option DisableRequest)}

theorem tally_concat (feed : String) (scope : Scope) (log : List Entry) (e : Entry) :
    tally feed scope (log ++ [e]) =
      if e.clears feed then 0 else tally feed scope log + if e.counts feed scope then 1 else 0 :=
  countP_streak_concat feed _ log e

theorem requests_concat (feed : String) (scope : Scope) (log : List Entry) (e : Entry) :
    requests feed scope (log ++ [e]) =
      if e.clears feed then 0 else requests feed scope log + if e.asks feed scope then 1 else 0 :=
  countP_streak_concat feed _ log e

/-- One more notice keeps the counters and the requests consistent. -/
theorem Consistent.tell (h : Consistent threshold log cs)
    (he : n.Effect threshold cs answer cs') :
    Consistent threshold (log ++ [⟨n, answer⟩]) cs' := by
  have hcounted (feed : String) (scope : Scope) :
      cs'.attempts feed scope = tally feed scope (log ++ [⟨n, answer⟩]) := by
    rw [he.attempts, tally_concat, h.counted]
  constructor
  · exact hcounted
  · intro feed scope
    have hasks := he.asks_iff feed scope
    rw [hcounted, tally_concat] at hasks
    rw [requests_concat, tally_concat, h.requested]
    cases hclears : Entry.clears feed ⟨n, answer⟩ with
    | true => simp
    | false =>
        cases hcounts : Entry.counts feed scope ⟨n, answer⟩ with
        | false =>
            have hno : Entry.asks feed scope ⟨n, answer⟩ = false := by
              simpa [hcounts] using hasks
            simp [hno]
        | true =>
            -- The request is made by the rejection that reaches the threshold, not after it.
            have hreach : Entry.asks feed scope ⟨n, answer⟩ = true ↔
                tally feed scope log + 1 = max threshold 1 := by
              simpa [hclears, hcounts] using hasks
            simp only [hreach, Bool.false_eq_true, if_false, if_true]
            split_ifs <;> omega

end Step

/-- What a notice is answered, when it is told to counters with the log of what was told before. -/
structure Notice.Answered (threshold : Nat) (around : Surroundings) (log : List Entry) (w : World)
    (n : Notice) (answer : Except Error (Option DisableRequest)) (w' : World) : Prop where
  /-- It is asked to disable what is rejected, for the reason of this very rejection, when the
  rejection brings the counter to the threshold. -/
  requests : ∀ d, answer = .ok (some d) ↔
    ∃ r, n.Rejects d.feed d.scope r ∧ answer.isOk = true ∧
      tally d.feed d.scope (log ++ [⟨n, answer⟩]) = max threshold 1 ∧ d.reason = r.reason
  unknown : ∀ feed scope code now, n = .coded feed scope code now →
    (∀ r : Rejection, code ≠ r.code) → answer = .error (.unknownRejection code) ∧ w' = w
  blank : ∀ feed id, n.isAbout feed (.connection id) = true → shows id = false →
    (∃ err, answer = .error err) ∧ w' = w
  /-- Nothing else is refused. -/
  accepted : (∀ kind, around.conditions w.calls kind = none) →
    (∀ feed scope code now, n = .coded feed scope code now → ∃ r : Rejection, code = r.code) →
    (∀ feed id, n.isAbout feed (.connection id) = true → shows id = true) → answer.isOk = true
  failed : ∀ err, answer = .error err → w'.stores.counters = w.stores.counters

section Answer

variable {threshold : Nat} {cs cs' : Counters} {n : Notice}
  {answer : Except Error (Option DisableRequest)}

/-- A request to disable is about the rejection that was told, and gives its reason. -/
theorem Notice.Effect.exists_rejects (h : n.Effect threshold cs answer cs') (d : DisableRequest)
    (ha : answer = .ok (some d)) : ∃ r, n.Rejects d.feed d.scope r ∧ d.reason = r.reason := by
  cases h with
  | failed => cases ha
  | @counted f s r now rejects =>
      have hd : disableRequest? threshold f s r (cs.attempts f s + 1) = some d := Except.ok.inj ha
      obtain ⟨-, hd⟩ := Option.ite_none_right_eq_some.mp hd
      obtain rfl := Option.some.inj hd
      exact ⟨r, rejects, rfl⟩
  | cleared => cases ha

/-- Disabling is asked for exactly by a rejection that brings its counter to the threshold. -/
theorem Notice.Effect.request_iff (h : n.Effect threshold cs answer cs') (d : DisableRequest) :
    answer = .ok (some d) ↔
      ∃ r, n.Rejects d.feed d.scope r ∧ answer.isOk = true ∧
        cs'.attempts d.feed d.scope = max threshold 1 ∧ d.reason = r.reason := by
  have hasks := h.asks_iff d.feed d.scope
  constructor
  · intro ha
    have hsome : Entry.asks d.feed d.scope ⟨n, answer⟩ = true := by simp [Entry.asks, ha]
    obtain ⟨r, hr, hreason⟩ := h.exists_rejects d ha
    exact ⟨r, hr, by rw [ha]; rfl, (hasks.mp hsome).2, hreason⟩
  · rintro ⟨r, hr, hok, hreached, hreason⟩
    have hcounts : Entry.counts d.feed d.scope ⟨n, answer⟩ = true := by
      simp [Entry.counts, hok, hr.isAbout_iff]
    have hsome := hasks.mpr ⟨hcounts, hreached⟩
    -- The scope is asked about, so the request can differ from `d` only in its reason.
    obtain ⟨d', hd', hfeed, hscope⟩ : ∃ d', answer = .ok (some d') ∧ d'.feed = d.feed ∧
        d'.scope = d.scope := by
      match answer, hsome with
      | .ok (some d'), hsome =>
          simp only [Entry.asks, Bool.and_eq_true, beq_iff_eq] at hsome
          exact ⟨d', rfl, hsome⟩
    obtain ⟨r', hr', hreason'⟩ := h.exists_rejects d' hd'
    rw [hfeed, hscope] at hr'
    have hsame : d'.reason = d.reason := by rw [hreason', hreason, hr.unique hr']
    obtain ⟨f, s, x⟩ := d
    obtain ⟨f', s', x'⟩ := d'
    obtain rfl : f' = f := hfeed
    obtain rfl : s' = s := hscope
    obtain rfl : x' = x := hsame
    exact hd'

end Answer

section Refusal

variable (threshold : Nat) (around : Surroundings) (w : World)

/-- A notice about a connection with a blank identifier is refused, and leaves all as it was. -/
theorem carryOut_of_blank {n : Notice} {feed id : String}
    (h : n.isAbout feed (.connection id) = true) (hid : shows id = false) :
    (∃ err, (carryOut around (n.take threshold) w).1 = .error err) ∧
      (carryOut around (n.take threshold) w).2 = w := by
  have hrejected (f : String) (r : Rejection) (now : Instant) :
      carryOut around ((Notice.rejected f (.connection id) r now).take threshold) w =
        (.error (.invalid "connection id must not be empty"), w) := by
    have hv : (Scope.connection id).isValid = false := hid
    exact carryOut_register_of_blank threshold around w f hv r now
  cases n with
  | rejected f s r now =>
      obtain ⟨-, rfl⟩ : f = feed ∧ s = .connection id := by simpa [Notice.isAbout] using h
      rw [hrejected]
      exact ⟨⟨_, rfl⟩, rfl⟩
  | coded f s code now =>
      obtain ⟨-, rfl⟩ : f = feed ∧ s = .connection id := by simpa [Notice.isAbout] using h
      rw [carryOut_coded]
      cases Rejection.parse code with
      | error err => exact ⟨⟨err, rfl⟩, rfl⟩
      | ok r =>
          dsimp only
          rw [hrejected]
          exact ⟨⟨_, rfl⟩, rfl⟩
  | succeeded f now => cases h
  | removed f => cases h

/-- A notice with a known code, about a feed or a connection with an identifier, is taken when its
call is answered. -/
theorem isOk_of_answered {n : Notice} (hc : ∀ kind, around.conditions w.calls kind = none)
    (hcode : ∀ feed scope code now, n = .coded feed scope code now → ∃ r : Rejection, code = r.code)
    (hid : ∀ feed id, n.isAbout feed (.connection id) = true → shows id = true) :
    (carryOut around (n.take threshold) w).1.isOk = true := by
  have hrejected (f : String) (s : Scope) (r : Rejection) (now : Instant)
      (hs : ∀ id, s = .connection id → shows id = true) :
      (carryOut around ((Notice.rejected f s r now).take threshold) w).1.isOk = true := by
    have hv : s.isValid = true := by
      cases s with
      | feed => rfl
      | connection id => exact hs id rfl
    rw [Notice.take, carryOut_register_of_valid threshold around w f hv, hc]
    rfl
  cases n with
  | rejected f s r now =>
      exact hrejected f s r now fun id hs => hid f id (by simp [Notice.isAbout, hs])
  | coded f s code now =>
      obtain ⟨r, rfl⟩ := hcode f s code now rfl
      rw [carryOut_coded, Rejection.parse_code]
      exact hrejected f s r now fun id hs => hid f id (by simp [Notice.isAbout, hs])
  | succeeded f now =>
      rw [carryOut_succeeded, hc]
      rfl
  | removed f =>
      rw [carryOut_removed, hc]
      rfl

end Refusal

/-- The counters and the requests are consistent after any notices. -/
theorem consistent_journal (threshold : Nat) (around : Surroundings) {w : World}
    (hw : w.stores.counters.rows = []) (ns : List Notice) :
    Consistent threshold (journal threshold around w ns).log
      (journal threshold around w ns).world.stores.counters := by
  induction ns using List.reverseRecOn with
  | nil => exact consistent_nil threshold hw
  | append_singleton ns n ih =>
      have hj : journal threshold around w (ns ++ [n]) =
          (journal threshold around w ns).tell threshold around n := by
        simp [journal]
      rw [hj]
      exact ih.tell (n.effect threshold around _)

/-- After any notices, however the calls about them went, every counter tells how many rejections of
its scope were counted since the counters of the feed were last cleared; disabling is asked for by
exactly those rejections that bring a counter to the threshold, once in a streak. -/
theorem streaks_counted (threshold : Nat) (around : Surroundings) (w : World)
    (hw : w.stores.counters.rows = []) (ns : List Notice) (n : Notice) :
    let j := journal threshold around w ns
    let told := carryOut around (n.take threshold) j.world
    Consistent threshold j.log j.world.stores.counters ∧
      n.Answered threshold around j.log j.world told.1 told.2 := by
  intro j told
  have hj : Consistent threshold j.log j.world.stores.counters :=
    consistent_journal threshold around hw ns
  have heffect : n.Effect threshold j.world.stores.counters told.1 told.2.stores.counters :=
    n.effect threshold around j.world
  refine ⟨hj, ?_⟩
  constructor
  · intro d
    rw [heffect.request_iff, (hj.tell heffect).counted]
  · intro feed scope code now hn hcode
    simp only [told, hn]
    rw [carryOut_coded, Rejection.parse_of_unknown hcode]
    exact ⟨rfl, rfl⟩
  · intro feed id habout hid
    exact carryOut_of_blank threshold around j.world habout hid
  · intro hc hcode hid
    exact isOk_of_answered threshold around j.world hc hcode hid
  · intro err he
    generalize told.1 = answer at heffect he
    generalize told.2.stores.counters = cs' at heffect
    cases heffect with
    | failed => rfl
    | counted => cases he
    | cleared => cases he

/-- Rejections of a feed and of one of its connections, with a clean run of another feed. -/
def mixedNotices : List Notice :=
  [.rejected "f" (.connection "c") .badRequest ⟨0⟩, .rejected "f" .feed .invalidFeed ⟨1⟩,
   .succeeded "g" ⟨2⟩, .coded "f" (.connection "c") "weird" ⟨3⟩,
   .rejected "f" (.connection "") .forbidden ⟨4⟩]

theorem streaks_of_mixedNotices :
    let n : Notice := .coded "f" (.connection "c") "forbidden" ⟨5⟩
    let j := journal 2 {} {} mixedNotices
    let told := carryOut {} (n.take 2) j.world
    ({} : World).stores.counters.rows = [] ∧
      told.1 = .ok (some ⟨"f", .connection "c", .missingPermissions⟩) ∧
      Consistent 2 j.log j.world.stores.counters ∧ n.Answered 2 {} j.log j.world told.1 told.2 :=
  ⟨rfl, by decide +kernel, streaks_counted 2 {} {} rfl mixedNotices _⟩

end Backoff

end Newswire
