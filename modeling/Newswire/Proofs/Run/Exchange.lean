import Mathlib.Data.List.Basic
import Newswire.Proofs.Outage
import Newswire.Run.Delivering

/-!
# Exchanges with a receiver

The messages of an errand go out one after the other until one of them is not taken. What comes of
them is told by the first answer that is not an acceptance.
-/

namespace Newswire

open Delivery (Outcome Response)

/-- The messages that go out and the answers to them, after what was sent before. -/
def exchange (receiver : Receiver) (sent : List Sending) :
    List Sending → List (Sending × Response)
  | [] => []
  | m :: rest =>
    let answer := receiver sent m
    (m, answer) :: if answer.outcome = .sent then exchange receiver (sent ++ [m]) rest else []

/-- What came of an exchange, and the rejection if it was one. -/
def verdict (x : List (Sending × Response)) : Outcome × Option Rejection :=
  match x.find? fun p => p.2.outcome ≠ .sent with
  | some p => (p.2.outcome, p.2.rejection?)
  | none => (.sent, none)

theorem verdict_cons_sent {p : Sending × Response} (h : p.2.outcome = .sent)
    (x : List (Sending × Response)) : verdict (p :: x) = verdict x := by
  simp [verdict, h]

theorem verdict_cons_stop {p : Sending × Response} (h : p.2.outcome ≠ .sent)
    (x : List (Sending × Response)) : verdict (p :: x) = (p.2.outcome, p.2.rejection?) := by
  simp [verdict, h]

/-- Every message is taken by the receiver, each after those before it. -/
def Accepts (receiver : Receiver) (sent ms : List Sending) : Prop :=
  ∀ pre m post, ms = pre ++ m :: post → (receiver (sent ++ pre) m).outcome = .sent

theorem accepts_nil (receiver : Receiver) (sent : List Sending) : Accepts receiver sent [] := by
  intro pre m post h
  simp at h

theorem accepts_cons_iff (receiver : Receiver) (sent : List Sending) (m : Sending)
    (rest : List Sending) :
    Accepts receiver sent (m :: rest) ↔
      (receiver sent m).outcome = .sent ∧ Accepts receiver (sent ++ [m]) rest := by
  constructor
  · intro h
    refine ⟨by simpa using h [] m rest rfl, fun pre n post hr => ?_⟩
    simpa using h (m :: pre) n post (by rw [hr, List.cons_append])
  · rintro ⟨hm, hr⟩ pre n post h
    cases pre with
    | nil =>
        cases h
        simpa using hm
    | cons k pre =>
        cases h
        simpa using hr pre n post rfl

/-- The answers in an exchange are all acceptances exactly when every message is taken. -/
theorem exchange_sent_iff (receiver : Receiver) (sent ms : List Sending) :
    (∀ x ∈ exchange receiver sent ms, x.2.outcome = .sent) ↔ Accepts receiver sent ms := by
  induction ms generalizing sent with
  | nil => simp [exchange, accepts_nil]
  | cons m rest ih =>
      rw [accepts_cons_iff, ← ih]
      by_cases hm : (receiver sent m).outcome = .sent <;> simp [exchange, hm]

/-- When every message is taken, all of them go out. -/
theorem map_fst_exchange (receiver : Receiver) (sent ms : List Sending)
    (h : ∀ x ∈ exchange receiver sent ms, x.2.outcome = .sent) :
    (exchange receiver sent ms).map Prod.fst = ms := by
  induction ms generalizing sent with
  | nil => rfl
  | cons m rest ih =>
      have hm : (receiver sent m).outcome = .sent := h _ (List.mem_cons_self ..)
      simp only [exchange, hm, if_true, List.mem_cons, forall_eq_or_imp] at h ⊢
      rw [List.map_cons, ih _ h.2]

theorem verdict_eq_sent_iff (x : List (Sending × Response)) :
    (verdict x).1 = .sent ↔ ∀ p ∈ x, p.2.outcome = .sent := by
  unfold verdict
  split
  · next p hp =>
      have hn : p.2.outcome ≠ .sent := by simpa using List.find?_some hp
      exact iff_of_false hn fun h => hn (h p (List.mem_of_find?_eq_some hp))
  · next hp => simpa using hp

theorem outcome_ne_filteredOut (answer : Response) : answer.outcome ≠ .filteredOut := by
  unfold Response.outcome
  split
  · simp
  · split <;> simp

theorem verdict_ne_filteredOut (x : List (Sending × Response)) :
    (verdict x).1 ≠ .filteredOut := by
  unfold verdict
  split
  · exact outcome_ne_filteredOut _
  · simp

/-- An answer that takes the message is no rejection. -/
theorem rejection?_of_sent {answer : Response} (h : answer.outcome = .sent) :
    answer.rejection? = none := by
  cases answer with
  | unreachable cause => rfl
  | answered status body =>
      have hs : 200 ≤ status ∧ status ≤ 299 := by
        by_contra hn
        simp [Response.outcome, hn] at h
      have h400 : status ≠ 400 := by omega
      have h403 : status ≠ 403 := by omega
      have h404 : status ≠ 404 := by omega
      simp [Response.rejection?, h400, h403, h404]

/-- A message that is rejected is the last of its exchange, and the rejection is what came of it. -/
theorem exchange_rejection {receiver : Receiver} {sent ms pre post : List Sending} {m : Sending}
    {x : Rejection} (h : (exchange receiver sent ms).map Prod.fst = pre ++ m :: post)
    (hx : (receiver (sent ++ pre) m).rejection? = some x) :
    post = [] ∧ (verdict (exchange receiver sent ms)).2 = some x := by
  induction ms generalizing sent pre with
  | nil => simp [exchange] at h
  | cons k rest ih =>
      rw [exchange] at h ⊢
      by_cases hk : (receiver sent k).outcome = .sent
      · rw [if_pos hk] at h ⊢
        rw [verdict_cons_sent hk]
        cases pre with
        | nil =>
            obtain ⟨rfl, -⟩ := List.cons.inj h
            rw [List.append_nil, rejection?_of_sent hk] at hx
            cases hx
        | cons j pre =>
            obtain ⟨rfl, hrest⟩ := List.cons.inj h
            exact ih hrest (by simpa using hx)
      · rw [if_neg hk] at h ⊢
        rw [verdict_cons_stop hk]
        cases pre with
        | nil =>
            obtain ⟨rfl, rfl⟩ := List.cons.inj h
            exact ⟨rfl, by simpa using hx⟩
        | cons j pre => simp at h

/-- When an exchange comes to a rejection, that is the answer to its last message. -/
theorem exists_rejection_of_verdict {receiver : Receiver} {sent ms : List Sending} {x : Rejection}
    (h : (verdict (exchange receiver sent ms)).2 = some x) :
    ∃ pre m, (exchange receiver sent ms).map Prod.fst = pre ++ [m] ∧
      (receiver (sent ++ pre) m).rejection? = some x := by
  induction ms generalizing sent with
  | nil => cases h
  | cons k rest ih =>
      rw [exchange] at h ⊢
      by_cases hk : (receiver sent k).outcome = .sent
      · rw [if_pos hk] at h ⊢
        rw [verdict_cons_sent hk] at h
        obtain ⟨pre, m, hm, hx⟩ := ih h
        exact ⟨k :: pre, m, by rw [List.map_cons, hm, List.cons_append], by simpa using hx⟩
      · rw [if_neg hk] at h ⊢
        rw [verdict_cons_stop hk] at h
        exact ⟨[], k, rfl, by simpa using h⟩

/-- A message through a connection. -/
def Connection.sending (c : Connection) (p : Message.Payload) : Sending := ⟨c.id, c.target, p⟩

theorem sendAll_cons (c : Connection) (p : Message.Payload) (rest : List Message.Payload) :
    Run.sendAll c (p :: rest) =
      .send (c.sending p) fun answer =>
        if answer.outcome = .sent then Run.sendAll c rest
        else .done (answer.outcome, answer.rejection?) := rfl

/-- Sending messages is an exchange, which changes nothing but what was sent. -/
theorem run_sendAll (around : Surroundings) (c : Connection) (ps : List Message.Payload)
    (w : World) :
    (Run.sendAll c ps).run around w =
      (verdict (exchange around.receiver w.sent (ps.map c.sending)),
        { w with
          sent := w.sent ++
            (exchange around.receiver w.sent (ps.map c.sending)).map Prod.fst }) := by
  induction ps generalizing w with
  | nil => simp [Run.sendAll, Plan.run, pure, exchange, verdict]
  | cons p rest ih =>
      rw [sendAll_cons, Plan.run]
      simp only [World.receive, List.map_cons, exchange]
      by_cases h : (around.receiver w.sent (c.sending p)).outcome = .sent
      · simp only [h, if_true]
        rw [ih, verdict_cons_sent h]
        simp
      · simp only [h, if_false, Plan.run, List.map_nil]
        rw [verdict_cons_stop h]

/-- Messages are sent without a call. -/
theorem sendAll_unanswered (around : Surroundings) (c : Connection) (ps : List Message.Payload)
    (w : World) : (Run.sendAll c ps).unanswered around w = [] := by
  induction ps generalizing w with
  | nil => rfl
  | cons p rest ih =>
      rw [sendAll_cons, Plan.unanswered]
      dsimp only [World.receive]
      split
      · exact ih _
      · rfl

end Newswire
