import Newswire.Proofs.Quota.Refusals

/-!
# What is left of a day

What a keeper says to be left of a day is what it then gives out: of reservations that are asked for
at one moment, under the limit of the day alone, as many are allowed as it has said, and every
further one is refused. What is on the books may lie on the edge of the day, behind the moment that
is asked about, or above the limit.
-/

namespace Newswire.Quota

/-- Reservations of a feed through one connection after the other, at one moment and under the limit
of the day alone. -/
def series (feed : String) (daily : Nat) (now : Instant) (connections : List String) :
    List Request :=
  connections.map fun connection => .reserve feed connection { daily } now

/-- What is said to requests of which the first are allowed, under the numbers of a list, and the
others come too late for the day. -/
def allowedThenRefused (ids : List Nat) (refused : Nat) : List Answer :=
  ids.map (fun id => .decision (.allowed id)) ++ List.replicate refused (.decision .dayExceeded)

/-- A keeper in the state `s` says that so much is left of the day, and keeps its word to every
series. -/
structure Foretells {σ : Type} (answer : σ → Request → Answer × σ) (s : σ) (feed : String)
    (daily : Nat) (now : Instant) (left : Nat) : Prop where
  told : answer s (.remaining feed daily now) = (.number left, s)
  kept (connections : List String) : ∃ ids : List Nat, ids.length = min left connections.length ∧
    answers answer s (series feed daily now connections) =
      allowedThenRefused ids (connections.length - left) ∧
    (answer (afterwards answer s (series feed daily now connections))
      (.remaining feed daily now)).1 = .number (left - ids.length)

namespace Ledger

variable (w : Ways) (feed : String) (daily : Nat) (now : Instant)

/-- Where a connection has no limits, only the day decides. -/
theorem answerBy_reserve_day (g : Ledger) (connection : String) :
    g.answerBy w (.reserve feed connection { daily } now) =
      if daily ≤ g.countSince feed none (w.time (dayStart now)) then (.decision .dayExceeded, g)
      else (.decision (.allowed (g.last + 1)), g.enter feed connection (w.time now)) := by
  rw [answerBy, refusal]
  by_cases hday : daily ≤ g.countSince feed none (w.time (dayStart now))
  · rw [if_pos hday, if_pos hday]
  · rw [if_neg hday, if_neg hday, List.find?_nil, Option.map_none]

/-- Every reservation that is allowed takes one of what is left, until nothing is. -/
theorem answers_series (g : Ledger) (connections : List String) :
    let left := room daily (g.countSince feed none (w.time (dayStart now)))
    ∃ ids : List Nat, ids.length = min left connections.length ∧
      answers (answerBy w) g (series feed daily now connections) =
        allowedThenRefused ids (connections.length - left) ∧
      room daily ((afterwards (answerBy w) g (series feed daily now connections)).countSince
        feed none (w.time (dayStart now))) = left - ids.length := by
  induction connections generalizing g with
  | nil => exact ⟨[], by simp, by simp [series, answers, allowedThenRefused], rfl⟩
  | cons connection rest ih =>
      have hstep := answerBy_reserve_day w feed daily now g connection
      dsimp only
      rw [series, List.map_cons, ← series, answers, afterwards, List.foldl_cons, ← afterwards]
      by_cases hfull : daily ≤ g.countSince feed none (w.time (dayStart now))
      · obtain ⟨ids, hlength, hanswers, hleft⟩ := ih g
        have hnone : room daily (g.countSince feed none (w.time (dayStart now))) = 0 :=
          Nat.sub_eq_zero_of_le hfull
        rw [hnone, Nat.zero_min] at hlength
        obtain rfl := List.length_eq_zero_iff.mp hlength
        rw [hstep, if_pos hfull, hanswers, hleft, hnone]
        exact ⟨[], by simp, by simp [allowedThenRefused, List.replicate_succ], rfl⟩
      · obtain ⟨ids, hlength, hanswers, hleft⟩ := ih (g.enter feed connection (w.time now))
        rw [countSince_enter_of_lt (w.time_dayStart_lt now)] at hlength hanswers hleft
        rw [hstep, if_neg hfull, hanswers, hleft]
        refine ⟨(g.last + 1) :: ids, ?_, ?_, ?_⟩
        · rw [List.length_cons, hlength]
          simp only [room, List.length_cons]
          omega
        · have hrefused :
              rest.length - room daily (g.countSince feed none (w.time (dayStart now)) + 1) =
                (connection :: rest).length -
                  room daily (g.countSince feed none (w.time (dayStart now))) := by
            simp only [room, List.length_cons]
            omega
          rw [hrefused]
          rfl
        · simp only [room, List.length_cons]
          omega

end Ledger

namespace Follows

variable {σ : Type} {w : Ways} {answer : σ → Request → Answer × σ}
  {live : σ → List Reservation} {Stands : σ → Ledger → Prop} {s : σ} {g : Ledger}

theorem foretells (h : Follows w answer live Stands) (hs : Stands s g) (feed : String)
    (daily : Nat) (now : Instant) (hsame : (answer s (.remaining feed daily now)).2 = s) :
    Foretells answer s feed daily now
      (room daily (g.countSince feed none (w.time (dayStart now)))) where
  told := Prod.ext (h.answer hs _).1 hsame
  kept connections := by
    obtain ⟨ids, hlength, hanswers, hleft⟩ :=
      Ledger.answers_series w feed daily now g connections
    obtain ⟨hseries, hafter⟩ := h.answers hs (series feed daily now connections)
    refine ⟨ids, hlength, hseries.trans hanswers, ?_⟩
    rw [(h.answer hafter _).1, ← hleft]
    rfl

end Follows

/-- Whatever was asked of either keeper before: what it says to be left of a day is the number of
reservations that it allows from then on at that moment, through any connections without limits of
their own; those behind them are refused for the day, and each that is allowed leaves one less. -/
theorem remaining_foretells (history : List Request) (feed : String) (daily : Nat) (now : Instant) :
    (∃ left, Foretells Ledger.answer (afterwards Ledger.answer {} history) feed daily now left) ∧
      ∃ left, Foretells Notebook.answer (afterwards Notebook.answer {} history) feed daily now
        left := by
  constructor
  · exact ⟨_, Ledger.follows.foretells (Ledger.follows.answers rfl history).2 feed daily now rfl⟩
  · exact ⟨_, Notebook.follows.foretells (Notebook.follows.answers Mirrors.empty history).2 feed
      daily now rfl⟩

/-- One reservation lies on the edge of the day, one behind its end, and one is given back. -/
example : answers Notebook.answer {} ([.reserve "f" "c" { daily := 9 } ⟨0⟩,
      .reserve "f" "c" { daily := 9 } ⟨86400000000001⟩, .reserve "f" "c" { daily := 9 } ⟨5⟩,
      .release 3, .remaining "f" 3 ⟨86400000000000⟩] ++
        series "f" 3 ⟨86400000000000⟩ ["a", "b", "c"]) =
    [.decision (.allowed 1), .decision (.allowed 2), .decision (.allowed 3), .done, .number 2] ++
      allowedThenRefused [4, 5] 1 := by
  decide

end Newswire.Quota
