import Newswire.Proofs.Abreast
import Newswire.Proofs.Quota.Ledger
import Newswire.Proofs.Run.Visits

/-!
# Errands side by side

An errand comes to the same fate in two worlds, if both stores say the same about what it records,
counts and reserves, and the receivers say the same to its messages. The numbers of reservations may
differ: each is given back in the ledger from which it came.
-/

namespace Newswire

variable {B : Sending → Prop} {R : Stores → Stores → Prop}

theorem mem_of_mem_exchange {receiver : Receiver} {sent ms : List Sending} {m : Sending}
    (h : m ∈ (exchange receiver sent ms).map Prod.fst) : m ∈ ms := by
  induction ms generalizing sent with
  | nil => exact h
  | cons k rest ih =>
      rw [exchange, List.map_cons, List.mem_cons] at h
      rcases h with rfl | h
      · exact List.mem_cons_self ..
      · split at h
        · exact List.mem_cons_of_mem _ (ih h)
        · cases h

/-- An exchange goes the same way where the same is answered to its messages. -/
theorem exchange_congr {receiver receiver' : Receiver} {sent sent' ms : List Sending}
    (h : ∀ ns m, (∀ x ∈ ns, B x) → B m → receiver (sent ++ ns) m = receiver' (sent' ++ ns) m)
    (hB : ∀ m ∈ ms, B m) : exchange receiver sent ms = exchange receiver' sent' ms := by
  induction ms generalizing sent sent' with
  | nil => rfl
  | cons k rest ih =>
      obtain ⟨hk, hrest⟩ := List.forall_mem_cons.mp hB
      have hanswer : receiver sent k = receiver' sent' k := by
        simpa using h [] k (by simp) hk
      have htail :
          exchange receiver (sent ++ [k]) rest = exchange receiver' (sent' ++ [k]) rest := by
        refine ih (fun ns m hns hm => ?_) hrest
        simpa using h (k :: ns) m (List.forall_mem_cons.mpr ⟨hk, hns⟩) hm
      rw [exchange, exchange, hanswer, htail]

namespace Run

variable {s : Setup} {r : Refresh} {e : Errand}

theorem sendAll_same (c : Connection) (ps : List Message.Payload) (hB : ∀ p, B (c.sending p)) :
    Same B R (liftM (sendAll c ps) : Run (Delivery.Outcome × Option Rejection)) := by
  intro around around' w w' habreast hR
  have hms : ∀ m ∈ ps.map c.sending, B m := by
    intro m hm
    obtain ⟨p, -, rfl⟩ := List.mem_map.mp hm
    exact hB p
  have hexchange : exchange around.receiver w.sent (ps.map c.sending) =
      exchange around'.receiver w'.sent (ps.map c.sending) :=
    exchange_congr habreast.receiver hms
  rw [carryOut_lift, carryOut_lift, run_sendAll, run_sendAll, ← hexchange]
  refine ⟨⟨⟨0, rfl, rfl⟩, _, fun x hx => ?_, rfl, rfl⟩, rfl, hR⟩
  exact hms x (mem_of_mem_exchange hx)

/-- Both stores say the same about what an errand records and counts, and stay related. -/
structure Errand.Respected (s : Setup) (r : Refresh) (e : Errand) (R : Stores → Stores → Prop) :
    Prop where
  recorded : ∀ outcome st tt, R st tt →
    (st.records.insertNew (e.attempted s r outcome)).1 =
        (tt.records.insertNew (e.attempted s r outcome)).1 ∧
      R { st with records := (st.records.insertNew (e.attempted s r outcome)).2 }
        { tt with records := (tt.records.insertNew (e.attempted s r outcome)).2 }
  counted : ∀ st tt, R st tt →
    let scope := Scope.connection e.connection.id
    (st.counters.increment r.feed.id scope s.now.millis).1 =
        (tt.counters.increment r.feed.id scope s.now.millis).1 ∧
      R { st with counters := (st.counters.increment r.feed.id scope s.now.millis).2 }
        { tt with counters := (tt.counters.increment r.feed.id scope s.now.millis).2 }

/-- Both ledgers have allowed a delivery, whether its reservations are kept or given back; or both
have refused it for the same reason. -/
inductive Granted (R : Stores → Stores → Prop) :
    Quota.Decision → Quota.Decision → Stores → Stores → Prop
  | allowed {i j : Nat} {st tt} (kept : R st tt)
      (returned : R { st with ledger := st.ledger.release i }
        { tt with ledger := tt.ledger.release j }) : Granted R (.allowed i) (.allowed j) st tt
  | refused {d st tt} (refusal : ∀ i, d ≠ .allowed i) (same : R st tt) : Granted R d d st tt

/-- Both ledgers say the same to an errand, from stores that `P` relates. -/
def Errand.Admitted (s : Setup) (r : Refresh) (e : Errand) (P R : Stores → Stores → Prop) : Prop :=
  ∀ st tt, P st tt →
    let d := st.ledger.reserve r.feed.id e.connection.id (limits s r e) s.now
    let d' := tt.ledger.reserve r.feed.id e.connection.id (limits s r e) s.now
    Granted R d.1 d'.1 { st with ledger := d.2 } { tt with ledger := d'.2 }

/-- Ledgers that count the same say the same, and are related however it goes on. -/
theorem Errand.Admitted.of_counts {P : Stores → Stores → Prop} (hsame : ∀ st tt, P st tt → R st tt)
    (hday : ∀ st tt, P st tt →
      ((limits s r e).daily <
          st.ledger.countSince r.feed.id none (Quota.dayStart s.now).millis + 1 ↔
        (limits s r e).daily <
          tt.ledger.countSince r.feed.id none (Quota.dayStart s.now).millis + 1))
    (hconnection : ∀ st tt, P st tt → ∀ since,
      st.ledger.countSince r.feed.id (some e.connection.id) since =
        tt.ledger.countSince r.feed.id (some e.connection.id) since)
    (henter : ∀ st tt, P st tt →
      let g := st.ledger.enter r.feed.id e.connection.id s.now.millis
      let g' := tt.ledger.enter r.feed.id e.connection.id s.now.millis
      R { st with ledger := g } { tt with ledger := g' } ∧
        R { st with ledger := g.release (st.ledger.last + 1 : Nat) }
          { tt with ledger := g'.release (tt.ledger.last + 1 : Nat) }) :
    e.Admitted s r P R := by
  intro st tt hP d d'
  obtain ⟨hd, hd'⟩ | ⟨x, hx, hd, hd'⟩ :=
    Quota.Ledger.reserve_alike (limits s r e) (hday st tt hP) (hconnection st tt hP)
  · simp only [d, d', hd, hd']
    exact .allowed (henter st tt hP).1 (henter st tt hP).2
  · simp only [d, d', hd, hd']
    exact .refused hx (hsame st tt hP)

theorem conclude_same (h : e.Respected s r R) (outcome : Delivery.Outcome)
    (rejection : Option Rejection) : Same B R (conclude s r e outcome rejection) := by
  apply Same.bind (.store _ (.call (h.recorded outcome)))
  intro isRecorded
  cases rejection with
  | none => exact .pure _
  | some x =>
      apply Same.bind (.store _ (.bind (.withScope (.call h.counted)) fun _ => .pure _))
      intro _
      exact .pure _

/-- An errand that both ledgers allow is dispatched in the same way. -/
theorem dispatch_matches {i j : Nat} (h : e.Respected s r R)
    (hB : ∀ p, B (e.connection.sending p)) (fields : Fields) :
    Matches B (Granted R (.allowed i) (.allowed j)) (dispatch s r e i fields)
      (dispatch s r e j fields) (fun a b st tt => a = b ∧ R st tt) R := by
  have kept : ∀ st tt, Granted R (.allowed i) (.allowed j) st tt → R st tt := by
    intro st tt hg
    cases hg with
    | allowed kept returned => exact kept
    | refused refusal same => exact same
  unfold dispatch
  split
  · next failure hc =>
      have hreleasing : ∀ st tt, Granted R (.allowed i) (.allowed j) st tt →
          R { st with ledger := st.ledger.release i } { tt with ledger := tt.ledger.release j } := by
        intro st tt hg
        cases hg with
        | allowed kept returned => exact returned
        | refused refusal same => exact absurd rfl (refusal i)
      exact .bind (.store _ (.call hreleasing kept)) fun _ _ => conclude_same h _ _
  · next payloads hc =>
      exact (Same.bind (sendAll_same _ _ hB) fun _ => conclude_same h _ _).mono kept

section Visit

variable {P : Stores → Stores → Prop} (hP : ∀ st tt, P st tt → R st tt) (h : e.Respected s r R)
  (hadmitted : e.Admitted s r P R) (hB : ∀ p, B (e.connection.sending p))

include hP h hadmitted hB

/-- An errand comes to the same fate in both worlds. -/
theorem attempt_matches :
    Matches B P (attempt s r e) (attempt s r e) (fun a b st tt => a = b ∧ R st tt) R := by
  unfold attempt
  cases e.prospect with
  | settled outcome => exact (conclude_same h outcome none).mono hP
  | toSend fields =>
      let reserving := Store.reserve r.feed.id e.connection.id (limits s r e) s.now
      have hreserving : Matches B P (store "rate limit reservation" reserving)
          (store "rate limit reservation" reserving) (Granted R) R := .store _ (.call hadmitted hP)
      apply hreserving.bind
      intro d d' around around' w w' habreast hg
      cases hg with
      | @allowed i j st tt kept returned =>
          exact dispatch_matches h hB fields habreast (.allowed kept returned)
      | refused refusal same =>
          cases d with
          | allowed i => exact absurd rfl (refusal i)
          | dayExceeded => exact Same.pure Fate.withheld habreast same
          | limitExceeded id => exact Same.pure Fate.withheld habreast same

theorem visit_matches {recorded : List (String × String)} {rejected rejected' : List String}
    (hrejected : rejected.contains e.connection.id = rejected'.contains e.connection.id) :
    Matches B P (visit s r recorded rejected e) (visit s r recorded rejected' e)
      (fun a b st tt => a = b ∧ R st tt) R := by
  unfold visit
  rw [hrejected]
  split
  · exact (Same.pure _).mono hP
  · split
    · exact (Same.pure _).mono hP
    · exact attempt_matches hP h hadmitted hB

end Visit

/-- All errands come to the same fates in both worlds. -/
theorem attemptAll_same {recorded : List (String × String)} {es : List Errand}
    (h : ∀ e ∈ es, e.Respected s r R ∧ e.Admitted s r R R ∧ ∀ p, B (e.connection.sending p))
    (rejected : List String) : Same B R (attemptAll s r recorded rejected es) := by
  induction es generalizing rejected with
  | nil => exact .pure _
  | cons e rest ih =>
      obtain ⟨⟨hrespected, hadmitted, hB⟩, hrest⟩ := List.forall_mem_cons.mp h
      rw [attemptAll_cons]
      apply Same.bind (visit_matches (fun _ _ hR => hR) hrespected hadmitted hB rfl)
      intro fate
      exact .map _ (ih hrest _)

end Run

end Newswire
