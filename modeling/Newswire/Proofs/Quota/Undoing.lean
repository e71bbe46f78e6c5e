import Mathlib.Data.List.Induction
import Newswire.Proofs.Quota.Refusals

/-!
# Reservations that are undone

A reservation is there from the time it is allowed until it is given back, pruned or purged. One
that is refused leaves nothing behind, and one that is given back at once nothing but its number,
which is not given out again. Keepers are told apart by their answers alone, and each tells the time
as it does.
-/

namespace Newswire.Quota

namespace Answer

/-- The number of a reservation that is allowed. -/
def issued? : Answer → Option Nat
  | .decision (.allowed id) => some id
  | _ => none

/-- The answer where one more number has been given out before. -/
def raised : Answer → Answer
  | .decision (.allowed id) => .decision (.allowed (id + 1))
  | a => a

end Answer

namespace Request

/-- The reservation is gone after the request, with a keeper that tells the time by `time`. -/
def Ends (time : Instant → Int) : Request → Reservation → Prop
  | .release id, r => r.id = id
  | .prune before, r => r.time < time before
  | .purge feed, r => r.feed = feed
  | _, _ => False

/-- The request where the number `n` has not been given out, and later ones are lower for that. No
reservation has the number zero. -/
def lowered (n : Nat) : Request → Request
  | .release id => .release (if id < n then id else if id = n then 0 else id - 1)
  | q => q

theorem lowered_of_lt {n : Nat} {q : Request} (h : ∀ id, q = .release id → id < n) :
    q.lowered n = q := by
  cases q with
  | release id => rw [lowered, if_pos (h id rfl)]
  | _ => rfl

end Request

section Outstanding

variable {σ : Type} (time : Instant → Int) (answer : σ → Request → Answer × σ) (start : σ)

/-- A reservation that was allowed among the requests and not ended by one after it. -/
def Outstanding (qs : List Request) (r : Reservation) : Prop :=
  ∃ before limits now after, time now = r.time ∧
    qs = before ++ .reserve r.feed r.connection limits now :: after ∧
    (answer (afterwards answer start before)
      (.reserve r.feed r.connection limits now)).1 = .decision (.allowed r.id) ∧
    ∀ q ∈ after, ¬ q.Ends time r

theorem outstanding_concat {qs : List Request} {q : Request} {r : Reservation} :
    Outstanding time answer start (qs ++ [q]) r ↔
      (Outstanding time answer start qs r ∧ ¬ q.Ends time r) ∨
      ∃ limits now, time now = r.time ∧ q = .reserve r.feed r.connection limits now ∧
        (answer (afterwards answer start qs) q).1 = .decision (.allowed r.id) := by
  constructor
  · rintro ⟨before, limits, now, after, htime, hqs, hallowed, hafter⟩
    rcases after.eq_nil_or_concat' with rfl | ⟨between, last, rfl⟩
    · obtain ⟨rfl, hq⟩ := List.append_inj' hqs rfl
      obtain rfl := List.singleton_inj.mp hq
      exact Or.inr ⟨limits, now, htime, rfl, hallowed⟩
    · rw [← List.cons_append, ← List.append_assoc] at hqs
      obtain ⟨rfl, hq⟩ := List.append_inj' hqs rfl
      obtain rfl := List.singleton_inj.mp hq
      obtain ⟨hbetween, hlast⟩ := List.forall_mem_append.mp hafter
      exact Or.inl ⟨⟨before, limits, now, between, htime, rfl, hallowed, hbetween⟩,
        hlast q List.mem_cons_self⟩
  · rintro (⟨⟨before, limits, now, after, htime, rfl, hallowed, hafter⟩, hq⟩ |
      ⟨limits, now, htime, rfl, hallowed⟩)
    · refine ⟨before, limits, now, after ++ [q], htime, by simp, hallowed, ?_⟩
      exact List.forall_mem_append.mpr ⟨hafter, by simpa using hq⟩
    · exact ⟨qs, limits, now, [], htime, rfl, hallowed, fun q hq => nomatch hq⟩

end Outstanding

/-- The reservation where the number `n` has been given out to another one before. -/
def Reservation.raised (n : Nat) (r : Reservation) : Reservation :=
  { r with id := if r.id < n then r.id else r.id + 1 }

namespace Ledger

variable {w : Ways} {g g' : Ledger} {n : Nat}

/-- A reservation is there after an answer if it was there and did not end, or has been allowed. -/
theorem mem_rows_answerBy {q : Request} {r : Reservation} :
    r ∈ (g.answerBy w q).2.rows ↔ (r ∈ g.rows ∧ ¬ q.Ends w.time r) ∨
      ∃ limits now, w.time now = r.time ∧ q = .reserve r.feed r.connection limits now ∧
        (g.answerBy w q).1 = .decision (.allowed r.id) := by
  cases q with
  | reserve feed connection limits now =>
      obtain hr | ⟨d, hd, hr⟩ := g.answerBy_reserve_cases w feed connection limits now
      · rw [hr]
        obtain ⟨id, f, c, t⟩ := r
        simp only [enter, List.mem_append, List.mem_singleton, Request.Ends, not_false_eq_true,
          and_true, Reservation.mk.injEq, Request.reserve.injEq, Answer.decision.injEq,
          Decision.allowed.injEq]
        grind
      · rw [hr]
        simp [Request.Ends, hd]
  | release id => simp [answerBy, release, Request.Ends]
  | count feed connection since => simp [answerBy, Request.Ends]
  | remaining feed daily now => simp [answerBy, Request.Ends]
  | prune before => simp [answerBy, remove, Request.Ends]
  | purge feed => simp [answerBy, purge, remove, Request.Ends]

theorem mem_rows_afterwards {qs : List Request} {r : Reservation} :
    r ∈ (afterwards (answerBy w) {} qs).rows ↔ Outstanding w.time (answerBy w) {} qs r := by
  induction qs using List.reverseRecOn with
  | nil =>
      constructor
      · intro h
        exact absurd h List.not_mem_nil
      · rintro ⟨before, limits, now, after, -, h, -⟩
        simp at h
  | append_singleton qs q ih =>
      rw [afterwards_append, outstanding_concat, ← ih]
      exact mem_rows_answerBy

/-- Reservations have positive numbers, in the order in which they were given out. -/
structure Sound (g : Ledger) : Prop where
  increasing : (g.rows.map (·.id)).Pairwise (· < ·)
  positive : ∀ r ∈ g.rows, 0 < r.id
  numbered : g.Numbered

namespace Sound

theorem empty : Sound {} := ⟨.nil, fun _ hr => absurd hr List.not_mem_nil, numbered_empty⟩

theorem filter (h : g.Sound) (test : Reservation → Bool) :
    Sound { g with rows := g.rows.filter test } where
  increasing := h.increasing.sublist (List.filter_sublist.map _)
  positive r hr := h.positive r (List.mem_of_mem_filter hr)
  numbered := h.numbered.filter test

theorem enter (h : g.Sound) (feed connection : String) (now : Int) :
    (g.enter feed connection now).Sound where
  increasing := by
    rw [Ledger.enter, List.map_append, List.pairwise_append]
    refine ⟨h.increasing, List.pairwise_singleton _ _, fun id hid last hlast => ?_⟩
    obtain ⟨r, hr, rfl⟩ := List.mem_map.mp hid
    obtain rfl := List.mem_singleton.mp hlast
    exact Nat.lt_succ_of_le (h.numbered r hr)
  positive r hr := by
    rcases List.mem_append.mp hr with hr | hr
    · exact h.positive r hr
    · obtain rfl := List.mem_singleton.mp hr
      exact Nat.succ_pos _
  numbered := h.numbered.enter feed connection now

theorem answerBy (h : g.Sound) (q : Request) : (g.answerBy w q).2.Sound := by
  cases q with
  | reserve feed connection limits now =>
      obtain hr | ⟨d, -, hr⟩ := g.answerBy_reserve_cases w feed connection limits now
      · rw [hr]
        exact h.enter feed connection (w.time now)
      · rw [hr]
        exact h
  | release id => exact h.filter _
  | count feed connection since => exact h
  | remaining feed daily now => exact h
  | prune before => exact h.filter _
  | purge feed => exact h.filter _

theorem afterwards (qs : List Request) : (afterwards (Ledger.answerBy w) {} qs).Sound :=
  afterwards_of_step _ empty fun _ q _ h => h.answerBy q

end Sound

/-- Numbers are given out one after the other. -/
theorem issued_answerBy (qs : List Request) (g : Ledger) :
    ∃ k, (answers (answerBy w) g qs).filterMap Answer.issued? = List.range' (g.last + 1) k := by
  induction qs generalizing g with
  | nil => exact ⟨0, rfl⟩
  | cons q rest ih =>
      obtain ⟨k, hk⟩ := ih (g.answerBy w q).2
      rw [answers]
      cases q with
      | reserve feed connection limits now =>
          obtain hr | ⟨d, hd, hr⟩ := g.answerBy_reserve_cases w feed connection limits now
          · rw [hr] at hk ⊢
            exact ⟨k + 1, congrArg (List.cons (g.last + 1)) hk⟩
          · rw [hr] at hk ⊢
            cases d with
            | allowed id => exact absurd rfl (hd id)
            | dayExceeded => exact ⟨k, hk⟩
            | limitExceeded id => exact ⟨k, hk⟩
      | _ => exact ⟨k, hk⟩

/-- A table, and the one in which the number `n` has been given out besides and given back. -/
structure Raised (n : Nat) (g g' : Ledger) : Prop where
  rows : g'.rows = g.rows.map (Reservation.raised n)
  last : g'.last = g.last + 1
  le_last : n ≤ g.last + 1
  pos : 0 < n
  positive : ∀ r ∈ g.rows, 0 < r.id

namespace Raised

theorem countSince (h : Raised n g g') : g'.countSince = g.countSince := by
  funext feed through since
  rw [Ledger.countSince, h.rows, List.filter_map, List.length_map]
  rfl

theorem filter (h : Raised n g g') {test test' : Reservation → Bool}
    (htest : ∀ r ∈ g.rows, test' (r.raised n) = test r) :
    Raised n { g with rows := g.rows.filter test } { g' with rows := g'.rows.filter test' } where
  rows := by
    rw [h.rows, List.filter_map]
    exact congrArg _ (List.filter_congr htest)
  last := h.last
  le_last := h.le_last
  pos := h.pos
  positive r hr := h.positive r (List.mem_of_mem_filter hr)

theorem enter (h : Raised n g g') (feed connection : String) (now : Int) :
    Raised n (g.enter feed connection now) (g'.enter feed connection now) where
  rows := by
    have hlater : ¬ g.last + 1 < n := Nat.not_lt.mpr h.le_last
    simp [Ledger.enter, h.rows, h.last, Reservation.raised, hlater]
  last := congrArg (· + 1) h.last
  le_last := Nat.le_succ_of_le h.le_last
  pos := h.pos
  positive r hr := by
    rcases List.mem_append.mp hr with hr | hr
    · exact h.positive r hr
    · obtain rfl := List.mem_singleton.mp hr
      exact Nat.succ_pos _

/-- A number names the same reservation in one table as its lowered number does in the other. -/
theorem release (h : Raised n g g') (id : Int) :
    Raised n (g.release (if id < n then id else if id = n then 0 else id - 1)) (g'.release id) := by
  refine h.filter fun r hr => ?_
  have hpos := h.positive r hr
  have hn := h.pos
  rw [Bool.eq_iff_iff, bne_iff_ne, bne_iff_ne, Reservation.raised]
  dsimp only
  split <;> split <;> omega

/-- What is removed is as much in one table as in the other. -/
theorem remove (h : Raised n g g') (test : Reservation → Bool)
    (htest : ∀ r, test (r.raised n) = test r) :
    (g'.remove test).1 = (g.remove test).1 ∧ Raised n (g.remove test).2 (g'.remove test).2 := by
  constructor
  · rw [Ledger.remove, Ledger.remove, h.rows, List.filter_map, List.length_map]
    exact congrArg List.length (List.filter_congr fun r _ => htest r)
  · exact h.filter fun r _ => congrArg _ (htest r)

theorem answerBy (h : Raised n g g') (q : Request) :
    (g'.answerBy w q).1 = (g.answerBy w (q.lowered n)).1.raised ∧
      Raised n (g.answerBy w (q.lowered n)).2 (g'.answerBy w q).2 := by
  cases q with
  | reserve feed connection limits now =>
      have hrefusal : g'.refusal w feed connection limits now =
          g.refusal w feed connection limits now := by
        rw [refusal, refusal, h.countSince]
      have hsame : (Request.reserve feed connection limits now).lowered n =
          .reserve feed connection limits now := rfl
      rw [hsame, Ledger.answerBy, Ledger.answerBy, hrefusal]
      cases hd : g.refusal w feed connection limits now with
      | none => exact ⟨by rw [h.last]; rfl, h.enter feed connection (w.time now)⟩
      | some d =>
          cases d with
          | allowed id => exact absurd rfl (ne_allowed_of_refusal hd id)
          | dayExceeded => exact ⟨rfl, h⟩
          | limitExceeded id => exact ⟨rfl, h⟩
  | release id => exact ⟨rfl, h.release id⟩
  | count feed through since =>
      refine ⟨?_, h⟩
      change Answer.number (g'.countSince feed through (w.time since)) = _
      rw [h.countSince]
      rfl
  | remaining feed daily now =>
      refine ⟨?_, h⟩
      change Answer.number (room daily (g'.countSince feed none (w.time (dayStart now)))) = _
      rw [h.countSince]
      rfl
  | prune before =>
      obtain ⟨hn, hr⟩ := h.remove (·.time < w.time before) fun _ => rfl
      exact ⟨congrArg Answer.number hn, hr⟩
  | purge feed =>
      obtain ⟨hn, hr⟩ := h.remove (·.feed == feed) fun _ => rfl
      exact ⟨congrArg Answer.number hn, hr⟩

theorem answers (h : Raised n g g') (qs : List Request) :
    answers (Ledger.answerBy w) g' qs =
      (answers (Ledger.answerBy w) g (qs.map (Request.lowered n))).map Answer.raised := by
  induction qs generalizing g g' with
  | nil => rfl
  | cons q rest ih =>
      obtain ⟨hfirst, hr⟩ : _ ∧ Raised n _ (g'.answerBy w q).2 := h.answerBy q
      exact congrArg₂ List.cons hfirst (ih hr)

end Raised

/-- A reservation that is given back at once. -/
theorem Sound.raised (h : g.Sound) (feed connection : String) (now : Int) :
    Raised (g.last + 1) g ((g.enter feed connection now).release (g.last + 1 : Nat)) where
  rows := by
    rw [h.numbered.release_enter]
    refine ((List.map_congr_left fun r hr => ?_).trans (List.map_id _)).symm
    rw [Reservation.raised, if_pos (Nat.lt_succ_of_le (h.numbered r hr))]
    rfl
  last := rfl
  le_last := Nat.le_refl _
  pos := Nat.succ_pos _
  positive := h.positive

end Ledger

/-- What a keeper in the state `s` makes of requests that come to nothing. Whatever is asked later is
answered as if they had not been made. Where a number was given out to one of them, the numbers
after it are larger by one, in the answers and in the requests that name them. -/
structure Undoes {σ : Type} (time : Instant → Int) (answer : σ → Request → Answer × σ)
    (live : σ → List Reservation) (s : σ) : Prop where
  count (feed : String) (through : Option String) (since : Instant) :
    (answer s (.count feed through since)).1 =
      .number ((live s).countP fun r => Ledger.concerns feed through r && time since < r.time)
  nodup : ((live s).map (·.id)).Nodup
  refused {feed connection : String} {limits : Limits} {now : Instant} {d : Decision}
    (h : (answer s (.reserve feed connection limits now)).1 = .decision d)
    (hd : ∀ id, d ≠ .allowed id) (rest : List Request) :
    answers answer (answer s (.reserve feed connection limits now)).2 rest = answers answer s rest
  release (id : Int) :
    (live (answer s (.release id)).2).Perm ((live s).filter fun r => (r.id : Int) != id)
  release_none {id : Int} (h : ∀ r ∈ live s, (r.id : Int) ≠ id) (rest : List Request) :
    answers answer (answer s (.release id)).2 rest = answers answer s rest
  released {feed connection : String} {limits : Limits} {now : Instant} {id : Nat}
    (h : (answer s (.reserve feed connection limits now)).1 = .decision (.allowed id))
    (rest : List Request) :
    answers answer (afterwards answer s [.reserve feed connection limits now, .release id]) rest =
      (answers answer s (rest.map (Request.lowered id))).map Answer.raised
  released_earlier {feed connection : String} {limits : Limits} {now : Instant} {id : Nat}
    (h : (answer s (.reserve feed connection limits now)).1 = .decision (.allowed id))
    {rest : List Request} (hrest : ∀ named : Int, .release named ∈ rest → named < id) :
    answers answer (afterwards answer s [.reserve feed connection limits now, .release id]) rest =
      (answers answer s rest).map Answer.raised

/-- After the requests, the reservations that are there are those that were allowed and did not end,
no number has been given out twice, and requests can be undone. -/
structure Accountable {σ : Type} (time : Instant → Int) (answer : σ → Request → Answer × σ)
    (live : σ → List Reservation) (start : σ) (history : List Request) : Prop where
  issued : ((answers answer start history).filterMap Answer.issued?).Pairwise (· < ·)
  mem_live_iff (r : Reservation) :
    r ∈ live (afterwards answer start history) ↔ Outstanding time answer start history r
  undoes : Undoes time answer live (afterwards answer start history)

namespace Follows

variable {σ : Type} {w : Ways} {answer : σ → Request → Answer × σ}
  {live : σ → List Reservation} {Stands : σ → Ledger → Prop} {start s s' : σ} {g : Ledger}

/-- States that stand for one table answer alike. -/
theorem answers_eq (h : Follows w answer live Stands) (hs : Stands s g) (hs' : Stands s' g)
    (qs : List Request) : Quota.answers answer s qs = Quota.answers answer s' qs :=
  (h.answers hs qs).1.trans (h.answers hs' qs).1.symm

theorem outstanding_iff (h : Follows w answer live Stands) (hs : Stands start g)
    {qs : List Request} {r : Reservation} :
    Outstanding w.time answer start qs r ↔ Outstanding w.time (Ledger.answerBy w) g qs r := by
  have hsame (before : List Request) (q : Request) :
      (answer (afterwards answer start before) q).1 =
        ((afterwards (Ledger.answerBy w) g before).answerBy w q).1 :=
    (h.answer (h.answers hs before).2 q).1
  simp only [Outstanding, hsame]

/-- A reservation that is given back at once leaves its number behind. -/
theorem answers_released (h : Follows w answer live Stands) (hs : Stands s g) (hg : g.Sound)
    {feed connection : String} {limits : Limits} {now : Instant} {id : Nat}
    (hallowed : (answer s (.reserve feed connection limits now)).1 = .decision (.allowed id))
    (rest : List Request) :
    Quota.answers answer (afterwards answer s [.reserve feed connection limits now, .release id])
        rest = (Quota.answers answer s (rest.map (Request.lowered id))).map Answer.raised := by
  obtain ⟨hsame, -⟩ := h.answer hs (.reserve feed connection limits now)
  obtain hr | ⟨d, hd, hr⟩ := g.answerBy_reserve_cases w feed connection limits now
  · rw [hallowed, hr] at hsame
    obtain rfl := Decision.allowed.inj (Answer.decision.inj hsame)
    have hafter := (h.answers hs
      [.reserve feed connection limits now, .release (g.last + 1 : Nat)]).2
    have hundone : afterwards (Ledger.answerBy w) g
        [.reserve feed connection limits now, .release (g.last + 1 : Nat)] =
          (g.enter feed connection (w.time now)).release (g.last + 1 : Nat) := by
      rw [afterwards, List.foldl_cons, hr]
      rfl
    rw [hundone] at hafter
    rw [(h.answers hafter rest).1, (h.answers hs _).1]
    exact (hg.raised feed connection (w.time now)).answers rest
  · rw [hallowed, hr] at hsame
    exact absurd (Answer.decision.inj hsame).symm (hd id)

theorem undoes (h : Follows w answer live Stands) (hs : Stands s g) (hg : g.Sound) :
    Undoes w.time answer live s where
  count feed through since := by
    rw [(h.answer hs _).1, (h.live hs).countP_eq, List.countP_eq_length_filter]
    rfl
  nodup := ((h.live hs).map _).nodup_iff.mpr (hg.increasing.imp Nat.ne_of_lt)
  refused {feed connection limits now d} hrefused hd rest := by
    obtain ⟨hsame, hafter⟩ := h.answer hs (.reserve feed connection limits now)
    obtain hr | ⟨d', -, hr⟩ := g.answerBy_reserve_cases w feed connection limits now
    · rw [hrefused, hr] at hsame
      exact absurd (Answer.decision.inj hsame) (hd _)
    · rw [hr] at hafter
      exact h.answers_eq hafter hs rest
  release id := (h.live (h.answer hs (.release id)).2).trans ((h.live hs).filter _).symm
  release_none {id} hnone rest := by
    obtain ⟨-, hafter⟩ := h.answer hs (.release id)
    have hrows : g.rows.filter (fun r => (r.id : Int) != id) = g.rows :=
      List.filter_eq_self.mpr fun r hr => bne_iff_ne.mpr (hnone r ((h.live hs).mem_iff.mpr hr))
    have hsame : (g.answerBy w (.release id)).2 = g := congrArg (Ledger.mk · g.last) hrows
    rw [hsame] at hafter
    exact h.answers_eq hafter hs rest
  released hallowed rest := h.answers_released hs hg hallowed rest
  released_earlier {_ _ _ _ id} hallowed {rest} hrest := by
    have hsame : rest.map (Request.lowered id) = rest :=
      (List.map_congr_left fun q hq =>
        Request.lowered_of_lt fun named hn => hrest named (hn ▸ hq)).trans (List.map_id _)
    rw [h.answers_released hs hg hallowed, hsame]

theorem accountable (h : Follows w answer live Stands) (hs : Stands start {})
    (history : List Request) : Accountable w.time answer live start history where
  issued := by
    obtain ⟨k, hk⟩ : ∃ k, (Quota.answers (Ledger.answerBy w) {} history).filterMap
        Answer.issued? = List.range' 1 k := Ledger.issued_answerBy history {}
    rw [(h.answers hs history).1, hk]
    exact List.pairwise_lt_range'
  mem_live_iff r := by
    rw [(h.live (h.answers hs history).2).mem_iff, h.outstanding_iff hs]
    exact Ledger.mem_rows_afterwards
  undoes := h.undoes (h.answers hs history).2 (.afterwards history)

end Follows

/-- A refused reservation and one that is given back at once leave nothing behind with either
keeper, whatever was asked of it before; a number ends no reservation but its own, and is given out
once. The ledger tells the time in whole milliseconds, and the notebook in nanoseconds. -/
theorem keepers_accountable (history : List Request) :
    Accountable Instant.millis Ledger.answer Ledger.rows {} history ∧
      Accountable Instant.nanos Notebook.answer Notebook.live {} history :=
  ⟨Ledger.follows.accountable rfl history, Notebook.follows.accountable Mirrors.empty history⟩

/-- A feed that is full, and another one of which a reservation was given back. -/
def crowded : List Request :=
  [.reserve "f" "c" { daily := 1 } ⟨0⟩, .reserve "g" "c" { daily := 1 } ⟨1⟩, .release 2]

/-- Reservations of both feeds, of which the second is given back. -/
def hopeful : List Request :=
  [.reserve "f" "c" { daily := 1 } ⟨3⟩, .reserve "g" "c" { daily := 1 } ⟨3⟩, .release 4, .purge "g",
    .reserve "g" "c" { daily := 1 } ⟨4⟩]

theorem keepers_accountable_crowded :
    answers Notebook.answer (afterwards Notebook.answer {} (crowded ++
        [.reserve "f" "c" { daily := 1 } ⟨2⟩])) hopeful =
      answers Notebook.answer (afterwards Notebook.answer {} crowded) hopeful ∧
    answers Ledger.answer (afterwards Ledger.answer {} (crowded ++
        [.reserve "g" "c" { daily := 1 } ⟨2⟩, .release 3])) hopeful =
      [.decision .dayExceeded, .decision (.allowed 4), .done, .number 0,
        .decision (.allowed 5)] := by
  obtain ⟨hledger, hnotebook⟩ := keepers_accountable crowded
  constructor
  · have hrefused : (Notebook.answer (afterwards Notebook.answer {} crowded)
        (.reserve "f" "c" { daily := 1 } ⟨2⟩)).1 = .decision .dayExceeded := by decide
    rw [afterwards_append]
    exact hnotebook.undoes.refused hrefused (by simp) hopeful
  · have hallowed : (Ledger.answer (afterwards Ledger.answer {} crowded)
        (.reserve "g" "c" { daily := 1 } ⟨2⟩)).1 = .decision (.allowed 3) := by decide
    rw [afterwards_append]
    refine (hledger.undoes.released hallowed hopeful).trans ?_
    decide

end Newswire.Quota
