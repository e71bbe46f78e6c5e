import Newswire.Proofs.Run.Counting

/-!
# Rejections by receivers

A connection is rejected in a run when a message through it is answered with a rejection. Nothing
more is then sent through it in that run, its counter goes up by one, and it is asked to disable it
if that brings the counter to the threshold. A run without rejections sets the counters of its feed
back.
-/

namespace Newswire.Run

/-- One of the messages that went out after those of `before` went through the connection and was
answered with the rejection. -/
def Rejects (receiver : Receiver) (before sent : List Sending) (id : String) (x : Rejection) :
    Prop :=
  ∃ pre m post, sent = pre ++ m :: post ∧ m.connection = id ∧
    (receiver (before ++ pre) m).rejection? = some x

variable {around : Surroundings} {s : Setup} {r : Refresh} {recorded : List (String × String)}

/-- What an errand sends, it sends in an exchange that tells whether it is rejected. -/
theorem Errand.Settles.exists_exchange {e : Errand} {w : World} {outcome : Delivery.Outcome}
    {rejection : Option Rejection} {ledger : Quota.Ledger} {sent : List Sending}
    (h : e.Settles around s r w outcome rejection ledger sent) :
    ∃ ms, sent = (exchange around.receiver w.sent ms).map Prod.fst ∧
      rejection = (verdict (exchange around.receiver w.sent ms)).2 := by
  cases h with
  | settled prospect => exact ⟨[], rfl, rfl⟩
  | unformatted prospect allowed composed => exact ⟨[], rfl, rfl⟩
  | exchanged prospect allowed composed => exact ⟨_, rfl, rfl⟩

namespace Visit.IsOf

variable {v : Visit}

/-- A visit sends through its own connection. -/
theorem connection_of_mem_sent (h : v.IsOf around s r recorded) :
    ∀ m ∈ v.sent, m.connection = v.errand.connection.id := by
  have hc : Confined (Stores.Keeps fun _ => ())
      (fun m => m.connection = v.errand.connection.id)
      (visit s r recorded v.rejected v.errand) :=
    visit_confined (fun _ _ => rfl) (fun _ _ => rfl) (fun _ _ => rfl) fun _ => rfl
  obtain ⟨-, sent, hs, hm⟩ := hc.carryOut around v.before
  rw [h] at hs
  rw [Visit.sent, hs, List.drop_left]
  exact hm

theorem exists_exchange (h : v.IsOf around s r recorded) (hok : v.answer.isOk = true) :
    ∃ ms, v.sent = (exchange around.receiver v.before.sent ms).map Prod.fst ∧
      v.rejection? = (verdict (exchange around.receiver v.before.sent ms)).2 := by
  have none_sent {fate : Fate} (ha : v.answer = .ok fate) (hf : ∀ x, fate ≠ .ended x) :
      ∃ ms, v.sent = (exchange around.receiver v.before.sent ms).map Prod.fst ∧
        v.rejection? = (verdict (exchange around.receiver v.before.sent ms)).2 := by
    refine ⟨[], (h.idle ha hf).2, ?_⟩
    rw [rejection?, ha]
    cases fate with
    | ended x => exact absurd rfl (hf x)
    | _ => rfl
  cases ha : v.answer with
  | error err => simp [ha, Except.isOk, Except.toBool] at hok
  | ok fate =>
      cases fate with
      | ended x =>
          obtain ⟨⟨ledger, hs⟩, -⟩ := h.ended ha
          have hx : v.rejection? = x.rejection := by
            rw [rejection?, ha]
            rfl
          rw [hx]
          exact hs.exists_exchange
      | _ => exact none_sent ha (by simp)

end Visit.IsOf

/-- A message of several visits is a message of one of them. -/
theorem exists_visit_of_sent {vs : List Visit} {pre post : List Sending} {m : Sending}
    (h : vs.flatMap Visit.sent = pre ++ m :: post) :
    ∃ before v after a b, vs = before ++ v :: after ∧ v.sent = a ++ m :: b ∧
      pre = before.flatMap Visit.sent ++ a ∧ post = b ++ after.flatMap Visit.sent := by
  induction vs generalizing pre with
  | nil => simp at h
  | cons u rest ih =>
      have skip (tail : List Sending) (hp : pre = u.sent ++ tail)
          (hr : rest.flatMap Visit.sent = tail ++ m :: post) :
          ∃ before v after a b, u :: rest = before ++ v :: after ∧ v.sent = a ++ m :: b ∧
            pre = before.flatMap Visit.sent ++ a ∧ post = b ++ after.flatMap Visit.sent := by
        obtain ⟨before, v, after, a, b, rfl, hv, rfl, rfl⟩ := ih hr
        exact ⟨u :: before, v, after, a, b, rfl, hv, by simp [hp], rfl⟩
      rw [List.flatMap_cons, List.append_eq_append_iff] at h
      obtain ⟨tail, hp, hr⟩ | ⟨bs, hu, hm⟩ := h
      · exact skip tail hp hr
      · cases bs with
        | nil => exact skip [] (by simpa using hu.symm) (by simpa using hm.symm)
        | cons k b =>
            obtain ⟨rfl, rfl⟩ := List.cons.inj hm
            exact ⟨[], u, rest, pre, b, rfl, hu, rfl, rfl⟩

namespace Linked

variable {rejected : List String} {w w' : World} {vs : List Visit}
  (h : Linked around s r recorded [] w vs w') (hok : ∀ v ∈ vs, v.answer.isOk = true)

include h hok

/-- A message that is answered with a rejection is the last of its visit, which rejects the
connection. -/
theorem rejection_of_sent {pre post : List Sending} {m : Sending} {x : Rejection}
    (hs : vs.flatMap Visit.sent = pre ++ m :: post)
    (hx : (around.receiver (w.sent ++ pre) m).rejection? = some x) :
    ∃ before v after, vs = before ++ v :: after ∧ v.errand.connection.id = m.connection ∧
      v.rejection? = some x ∧ post = after.flatMap Visit.sent := by
  obtain ⟨before, v, after, a, b, rfl, hv, rfl, rfl⟩ := exists_visit_of_sent hs
  obtain ⟨hp, hof, -, -⟩ := h.split
  have hsent : v.before.sent = w.sent ++ before.flatMap Visit.sent :=
    hp.gains (f := World.sent) fun u hu => hu.sent_eq
  obtain ⟨ms, hms, hverdict⟩ := hof.exists_exchange (hok v (by simp))
  rw [← List.append_assoc, ← hsent] at hx
  obtain ⟨rfl, hlast⟩ := exchange_rejection (hms ▸ hv) hx
  refine ⟨before, v, after, rfl, ?_, hverdict.trans hlast, rfl⟩
  exact (hof.connection_of_mem_sent m (by simp [hv])).symm

/-- A connection is rejected in a visit exactly when a message through it is answered with a
rejection. -/
theorem rejects_iff (id : String) (x : Rejection) :
    Rejects around.receiver w.sent (vs.flatMap Visit.sent) id x ↔
      ∃ v ∈ vs, v.errand.connection.id = id ∧ v.rejection? = some x := by
  constructor
  · rintro ⟨pre, m, post, hs, rfl, hx⟩
    obtain ⟨before, v, after, rfl, hm, hv, -⟩ := h.rejection_of_sent hok hs hx
    exact ⟨v, by simp, hm, hv⟩
  · rintro ⟨v, hv, rfl, hx⟩
    obtain ⟨before, after, rfl⟩ := List.append_of_mem hv
    obtain ⟨hp, hof, -, -⟩ := h.split
    have hsent : v.before.sent = w.sent ++ before.flatMap Visit.sent :=
      hp.gains (f := World.sent) fun u hu => hu.sent_eq
    obtain ⟨ms, hms, hverdict⟩ := hof.exists_exchange (hok v hv)
    obtain ⟨a, m, ha, hm⟩ := exists_rejection_of_verdict (hverdict.symm.trans hx)
    rw [← hms] at ha
    refine ⟨before.flatMap Visit.sent ++ a, m, after.flatMap Visit.sent, by simp [ha], ?_, ?_⟩
    · exact hof.connection_of_mem_sent m (by simp [ha])
    · rwa [← List.append_assoc, ← hsent]

theorem rejectedIn_iff (id : String) :
    RejectedIn vs id ↔ ∃ x, Rejects around.receiver w.sent (vs.flatMap Visit.sent) id x := by
  simp only [h.rejects_iff hok, RejectedIn, Visit.isRejection_iff]
  constructor
  · rintro ⟨v, hv, ⟨x, hx⟩, hid⟩
    exact ⟨x, v, hv, hid, hx⟩
  · rintro ⟨x, v, hv, hid, hx⟩
    exact ⟨v, hv, ⟨x, hx⟩, hid⟩

/-- Nothing more is sent through a connection after a message through it was rejected. -/
theorem stops_of_rejection {pre post : List Sending} {m : Sending} {x : Rejection}
    (hs : vs.flatMap Visit.sent = pre ++ m :: post)
    (hx : (around.receiver (w.sent ++ pre) m).rejection? = some x) :
    ∀ n ∈ post, n.connection ≠ m.connection := by
  obtain ⟨before, v, after, rfl, hm, hv, rfl⟩ := h.rejection_of_sent hok hs hx
  intro n hn hnm
  obtain ⟨u, hu, hsent⟩ := List.mem_flatMap.mp hn
  obtain ⟨first, rest, rfl⟩ := List.append_of_mem hu
  rw [← List.cons_append, ← List.append_assoc] at h
  obtain ⟨-, hof, -, -⟩ := h.split
  have hid : u.errand.connection.id = v.errand.connection.id := by
    rw [← hof.connection_of_mem_sent n hsent, hnm, hm]
  have hrejected : u.errand.connection.id ∈ u.rejected := by
    exact (h.mem_rejected_iff _).mpr
      (Or.inr ⟨v, by simp, v.isRejection_iff.mpr ⟨x, hv⟩, hid.symm⟩)
  exact (hof.sent_ne_nil_iff.mp (List.ne_nil_of_mem hsent)).1 hrejected

end Linked

/-- What the rejections among the answers to the messages of a run come to: for what is sent, for
the counters before and after it, and for the requests that it reports. -/
structure Consequences (around : Surroundings) (s : Setup) (r : Refresh) (w w' : World)
    (report : Report) (messages : List Sending) : Prop where
  sent : w'.sent = w.sent ++ messages
  /-- A rejection is the last answer to a connection. -/
  stops : ∀ pre m post x, messages = pre ++ m :: post →
    (around.receiver (w.sent ++ pre) m).rejection? = some x →
    ∀ n ∈ post, n.connection ≠ m.connection
  counted : ∀ id x, Rejects around.receiver w.sent messages id x →
    w'.stores.counters.attempts r.feed.id (.connection id) =
      w.stores.counters.attempts r.feed.id (.connection id) + 1
  disabled : ∀ id x, Rejects around.receiver w.sent messages id x →
    report.disables (.connection id) =
      if w.stores.counters.attempts r.feed.id (.connection id) + 1 =
          effectiveThreshold s.settings.threshold then
        [⟨r.feed.id, .connection id, x.reason⟩]
      else []
  spared : ∀ id, (∀ x, ¬Rejects around.receiver w.sent messages id x) →
    report.disables (.connection id) = []
  /-- A run without rejections sets back every counter of its feed. -/
  cleared : (∀ id x, ¬Rejects around.receiver w.sent messages id x) →
    ∀ scope, w'.stores.counters.attempts r.feed.id scope = 0
  /-- A run with a rejection leaves the counters alone of what was not rejected. -/
  kept : (∃ id x, Rejects around.receiver w.sent messages id x) →
    ∀ scope, (∀ id x, Rejects around.receiver w.sent messages id x → scope ≠ .connection id) →
      w'.stores.counters.get? r.feed.id scope = w.stores.counters.get? r.feed.id scope
  others : ∀ feed, feed ≠ r.feed.id → ∀ scope,
    w'.stores.counters.get? feed scope = w.stores.counters.get? feed scope

/-- In a run that comes to its end, each connection that is rejected gets nothing more, is counted
once, and is asked to be disabled when that brings its counter to the threshold. -/
theorem handle_rejections (around : Surroundings) (s : Setup) (r : Refresh) (w : World)
    (report : Report) (h : (carryOut around (handle s (.deliver r)) w).1 = .ok report) :
    ∃ messages,
      Consequences around s r w (carryOut around (handle s (.deliver r)) w).2 report messages := by
  obtain ⟨u, x, course⟩ := handle_course around s r w
  have hends := course.ends
  rw [h] at hends
  cases hends with
  | @completed fates visited fingerprints counters =>
      have hlinked := course.linked
      have hok : ∀ v ∈ tour around s r w, v.answer.isOk = true := fun v hv => visited.isOk hv
      have hsent : u.sent = w.sent := course.startSent
      have hcounters : u.stores.counters = w.stores.counters := course.start_counters
      have hcounted := hlinked.counted
      have hrejects := hlinked.rejects_iff hok
      have hrejected := hlinked.rejectedIn_iff hok
      rw [hcounters] at hcounted
      rw [hsent] at hrejects hrejected
      have hany : (∃ id x, Rejects around.receiver w.sent
          ((tour around s r w).flatMap Visit.sent) id x) →
          fates.any (·.2.isRejection) = true := by
        rintro ⟨id, y, hy⟩
        exact visited.any_isRejection.mpr ⟨id, (hrejected id).mpr ⟨y, hy⟩⟩
      refine ⟨(tour around s r w).flatMap Visit.sent,
        { sent := handle_sent around s r w
          stops := ?stops
          counted := ?counted
          disabled := ?disabled
          spared := ?spared
          cleared := ?cleared
          kept := ?kept
          others := ?others }⟩
      case stops =>
        intro pre m post y hs hy
        exact hlinked.stops_of_rejection hok hs (hsent ▸ hy)
      case counted =>
        intro id y hy
        rw [counters, countersAfter, if_pos (hany ⟨id, y, hy⟩), hcounted.raised,
          if_pos ((hrejected id).mpr ⟨y, hy⟩)]
      case disabled =>
        intro id y hy
        obtain ⟨v, hv, rfl, hvx⟩ := (hrejects id y).mp hy
        rw [visited.disables, hlinked.disables_of_rejection hv rfl hvx, hcounters, disableRequest?]
        split <;> rfl
      case spared =>
        intro id hn
        rw [visited.disables]
        refine hlinked.disables_of_not_rejectedIn fun hid => ?_
        obtain ⟨y, hy⟩ := (hrejected id).mp hid
        exact hn y hy
      case cleared =>
        intro hn scope
        have hnone : fates.any (·.2.isRejection) = false := by
          by_contra hne
          obtain ⟨id, hid⟩ := visited.any_isRejection.mp (by simpa using hne)
          obtain ⟨y, hy⟩ := (hrejected id).mp hid
          exact hn id y hy
        rw [counters, countersAfter, hnone]
        exact Counters.reset_attempts ..
      case kept =>
        intro hex scope hn
        rw [counters, countersAfter, if_pos (hany hex)]
        refine hcounted.kept _ _ fun _ id hid => ?_
        obtain ⟨y, hy⟩ := (hrejected id).mp hid
        exact hn id y hy
      case others =>
        intro feed hf scope
        have hk := hcounted.kept feed scope fun he => absurd he hf
        rw [counters, countersAfter]
        split
        · exact hk
        · rw [Counters.reset_get?_of_ne _ hf, hk]

/-- Two articles on their way to two connections, one of which is listed twice. -/
def repeatedConnectionEvent : Refresh :=
  sampleEvent ["x", "y"] [newsConnection "a", newsConnection "b", newsConnection "b"]

/-- The feed and one of its connections have been rejected before. -/
def rebuffedWorld : World where
  stores := { counters := ⟨[⟨"f", .feed, 2, 0, 0⟩, ⟨"f", .connection "a", 1, 0, 0⟩]⟩ }

def repeatedConnectionReport : Report where
  events :=
    [.delivered "f" "a" "y" .sent none,
     .delivered "f" "b" "y" .failed (some .receiverBadRequest),
     .disable ⟨"f", .connection "b", .badFormat⟩,
     .delivered "f" "a" "x" .sent none]
  selected := 2

theorem rejections_of_repeatedConnection :
    (carryOut { receiver := refusing "b" } (handle strictSetup (.deliver repeatedConnectionEvent))
        rebuffedWorld).1 = .ok repeatedConnectionReport ∧
      ∃ messages, Consequences { receiver := refusing "b" } strictSetup repeatedConnectionEvent
        rebuffedWorld
        (carryOut { receiver := refusing "b" }
          (handle strictSetup (.deliver repeatedConnectionEvent)) rebuffedWorld).2
        repeatedConnectionReport messages := by
  have h : (carryOut { receiver := refusing "b" }
      (handle strictSetup (.deliver repeatedConnectionEvent)) rebuffedWorld).1 =
        .ok repeatedConnectionReport := by decide +kernel
  exact ⟨h, handle_rejections _ _ _ _ _ h⟩

end Newswire.Run
