import Newswire.Proofs.Run.Attempts

/-!
# Visits

A run visits its errands one after the other. Each visit starts in the world that the one before it
left, knows which connections were rejected by then, and adds to what was sent and recorded. After
one that breaks off there is no other.
-/

namespace Newswire

/-- Records have been added, and only such as `P` holds of. -/
def Stores.Gains (P : Delivery.Record → Prop) (s t : Stores) : Prop :=
  ∃ new, t.records.rows = s.records.rows ++ new ∧ ∀ x ∈ new, P x

instance (P : Delivery.Record → Prop) : IsPreorder Stores (Stores.Gains P) where
  refl _ := ⟨[], by simp, by simp⟩
  trans := by
    rintro s t u ⟨new, hn, hp⟩ ⟨newer, hm, hq⟩
    refine ⟨new ++ newer, by rw [hm, hn, List.append_assoc], fun x hx => ?_⟩
    exact (List.mem_append.mp hx).elim (hp x) (hq x)

namespace Run

/-- What a run does with an errand, given the keys that were recorded before the run and the
connections that were rejected during it. -/
def visit (s : Setup) (r : Refresh) (recorded : List (String × String)) (rejected : List String)
    (e : Errand) : Run Fate :=
  if rejected.contains e.connection.id then pure .suppressed
  else if recorded.contains e.key then pure .skipped
  else attempt s r e

/-- What happened to one errand of a run. -/
structure Visit where
  errand : Errand
  /-- The connections that were rejected earlier in the run. -/
  rejected : List String
  before : World
  answer : Except Error Fate
  after : World

namespace Visit

/-- The connection was rejected during the visit. -/
def isRejection (v : Visit) : Bool := v.answer.toOption.any Fate.isRejection

/-- The connections that are rejected after the visit. -/
def rejectedAfter (v : Visit) : List String :=
  if v.isRejection then v.errand.connection.id :: v.rejected else v.rejected

/-- The messages that went out. -/
def sent (v : Visit) : List Sending := v.after.sent.drop v.before.sent.length

/-- The records that were added. -/
def added (v : Visit) : List Delivery.Record :=
  v.after.stores.records.rows.drop v.before.stores.records.rows.length

/-- The visit came to an end of its own, which it has recorded. -/
def isEnded (v : Visit) : Bool :=
  match v.answer with
  | .ok (.ended _) => true
  | _ => false

end Visit

theorem Visit.rejectedAfter_of_ok {v : Visit} {fate : Fate} (h : v.answer = .ok fate) :
    v.rejectedAfter =
      if fate.isRejection then v.errand.connection.id :: v.rejected else v.rejected := by
  rw [rejectedAfter, isRejection, h]
  rfl

/-- One of the visits ended with a rejection of the connection. -/
def RejectedIn (vs : List Visit) (id : String) : Prop :=
  ∃ u ∈ vs, u.isRejection = true ∧ u.errand.connection.id = id

section Visits

variable (around : Surroundings) (s : Setup) (r : Refresh) (recorded : List (String × String))

/-- The visit to an errand in a world. -/
def visitOf (rejected : List String) (e : Errand) (w : World) : Visit where
  errand := e
  rejected := rejected
  before := w
  answer := (carryOut around (visit s r recorded rejected e) w).1
  after := (carryOut around (visit s r recorded rejected e) w).2

/-- The visits to errands, up to the first that breaks off. -/
def visits (rejected : List String) : List Errand → World → List Visit
  | [], _ => []
  | e :: rest, w =>
    let v := visitOf around s r recorded rejected e w
    v :: match v.answer with
      | .ok _ => visits v.rejectedAfter rest v.after
      | .error _ => []

/-- The visit went as the run goes. -/
def Visit.IsOf (v : Visit) : Prop :=
  carryOut around (visit s r recorded v.rejected v.errand) v.before = (v.answer, v.after)

/-- Each of the visits starts where the one before it left off, and only the last may have been
broken off. -/
inductive Linked : List String → World → List Visit → World → Prop
  | nil {rejected w} : Linked rejected w [] w
  | cons {v rest w'} (visit : v.IsOf around s r recorded)
      (last : v.answer.isOk = false → rest = [])
      (others : Linked v.rejectedAfter v.after rest w') : Linked v.rejected v.before (v :: rest) w'

variable {around s r recorded} {rejected : List String} {w w' : World}

theorem visit_confined {R : Stores → Stores → Prop} {P : Sending → Prop} {e : Errand}
    (hr : ∀ st outcome,
      R st { st with records := (st.records.insertNew (e.attempted s r outcome)).2 })
    (hc : ∀ st counters, R st { st with counters }) (hl : ∀ st ledger, R st { st with ledger })
    (hp : ∀ p, P (e.connection.sending p)) : Confined R P (visit s r recorded rejected e) := by
  unfold visit
  split
  · exact .pure _
  · split
    · exact .pure _
    · exact attempt_confined s r e hr hc hl hp

theorem attemptAll_cons (e : Errand) (rest : List Errand) :
    attemptAll s r recorded rejected (e :: rest) =
      visit s r recorded rejected e >>= fun fate =>
        (fun fates => (e, fate) :: fates) <$>
          attemptAll s r recorded
            (if fate.isRejection then e.connection.id :: rejected else rejected) rest := by
  rw [attemptAll, visit]
  simp only [map_eq_pure_bind]
  split
  · rfl
  · split <;> rfl

theorem attemptAll_confined {R : Stores → Stores → Prop} {P : Sending → Prop}
    (hr : ∀ st (e : Errand) outcome,
      R st { st with records := (st.records.insertNew (e.attempted s r outcome)).2 })
    (hc : ∀ st counters, R st { st with counters }) (hl : ∀ st ledger, R st { st with ledger })
    (hp : ∀ m, P m) (es : List Errand) : Confined R P (attemptAll s r recorded rejected es) := by
  induction es generalizing rejected with
  | nil => exact .pure _
  | cons e rest ih =>
      rw [attemptAll_cons]
      refine .bind (visit_confined (fun st => hr st e) hc hl fun p => hp _) fun fate => ?_
      exact .map _ ih

theorem visit_brittle {K : Store.Kind → Prop} {B : Prop}
    (hk : ∀ kind ∈ [.reserve, .release, .insertRecord, .incrementCounter], K kind) {e : Errand}
    (hb : shows e.connection.id = false → B) : Brittle K B (visit s r recorded rejected e) :=
  .ite (.pure _) (.ite (.pure _) (attempt_brittle s r e hk hb))

theorem attemptAll_brittle {K : Store.Kind → Prop} {B : Prop}
    (hk : ∀ kind ∈ [.reserve, .release, .insertRecord, .incrementCounter], K kind)
    {es : List Errand} (hb : ∀ e ∈ es, shows e.connection.id = false → B) :
    Brittle K B (attemptAll s r recorded rejected es) := by
  induction es generalizing rejected with
  | nil => exact .pure _
  | cons e rest ih =>
      rw [attemptAll_cons]
      refine .bind (visit_brittle hk (hb e (List.mem_cons_self ..))) fun fate => .map _ ?_
      exact ih fun e he => hb e (List.mem_cons_of_mem _ he)

theorem carryOut_attemptAll_ok {e : Errand} {rest : List Errand} {fate : Fate}
    {fates : List (Errand × Fate)} {u : World}
    (hvisit : carryOut around (visit s r recorded rejected e) w = (.ok fate, u))
    (hrest : carryOut around (attemptAll s r recorded
      (if fate.isRejection then e.connection.id :: rejected else rejected) rest) u =
        (.ok fates, w')) :
    carryOut around (attemptAll s r recorded rejected (e :: rest)) w =
      (.ok ((e, fate) :: fates), w') := by
  rw [attemptAll_cons, carryOut_bind, hvisit]
  dsimp only
  rw [carryOut_map, hrest]
  rfl

theorem carryOut_attemptAll_cons (e : Errand) (rest : List Errand) :
    let v := visitOf around s r recorded rejected e w
    carryOut around (attemptAll s r recorded rejected (e :: rest)) w =
      match v.answer with
      | .ok fate =>
        let (fates, w') := carryOut around (attemptAll s r recorded v.rejectedAfter rest) v.after
        (fates.map ((e, fate) :: ·), w')
      | .error err => (.error err, v.after) := by
  intro v
  have hv : carryOut around (visit s r recorded rejected e) w = (v.answer, v.after) := rfl
  rw [attemptAll_cons, carryOut_bind, hv]
  cases ha : v.answer with
  | error err => rfl
  | ok fate =>
      have hr : v.rejectedAfter =
          if fate.isRejection then e.connection.id :: rejected else rejected :=
        Visit.rejectedAfter_of_ok ha
      rw [hr]
      exact carryOut_map ..

/-- The visits lead from the world before all errands to the world after them. -/
theorem linked_visits (es : List Errand) :
    Linked around s r recorded rejected w (visits around s r recorded rejected es w)
      (carryOut around (attemptAll s r recorded rejected es) w).2 := by
  induction es generalizing rejected w with
  | nil => exact .nil
  | cons e rest ih =>
      rw [visits, carryOut_attemptAll_cons]
      let v := visitOf around s r recorded rejected e w
      refine .cons (v := v) rfl ?_ ?_
      · cases v.answer with
        | error err => exact fun _ => rfl
        | ok fate => exact fun h => nomatch h
      · cases v.answer with
        | error err => exact .nil
        | ok fate => exact ih

/-- A call that is not answered in a visit is not answered in the run. -/
theorem unanswered_visits (es : List Errand) :
    ∀ v ∈ visits around s r recorded rejected es w,
      unanswered around (visit s r recorded v.rejected v.errand) v.before ⊆
        unanswered around (attemptAll s r recorded rejected es) w := by
  induction es generalizing rejected w with
  | nil => exact fun v hv => nomatch hv
  | cons e rest ih =>
      rw [attemptAll_cons, unanswered_bind, visits]
      rintro v (_ | ⟨_, hv⟩)
      · exact List.subset_append_left ..
      · refine List.subset_append_of_subset_right _ ?_
        let u := visitOf around s r recorded rejected e w
        have hu : carryOut around (visit s r recorded rejected e) w = (u.answer, u.after) := rfl
        rw [hu]
        cases ha : u.answer with
        | error err =>
            simp only [u] at ha
            rw [ha] at hv
            cases hv
        | ok fate =>
            have hr : u.rejectedAfter =
                if fate.isRejection then e.connection.id :: rejected else rejected :=
              Visit.rejectedAfter_of_ok ha
            simp only [u] at ha
            rw [ha] at hv
            dsimp only
            rw [unanswered_map, ← hr]
            exact ih v hv

/-- When none is broken off, every errand has been visited. -/
theorem visits_of_ok {es : List Errand} {fates : List (Errand × Fate)}
    (h : (carryOut around (attemptAll s r recorded rejected es) w).1 = .ok fates) :
    fates.map Prod.fst = es ∧
      (visits around s r recorded rejected es w).map (fun v => (v.errand, v.answer)) =
        fates.map fun p => (p.1, .ok p.2) := by
  induction es generalizing rejected w fates with
  | nil =>
      cases h
      exact ⟨rfl, rfl⟩
  | cons e rest ih =>
      rw [carryOut_attemptAll_cons] at h
      rw [visits]
      cases ha : (visitOf around s r recorded rejected e w).answer with
      | error err => simp [ha] at h
      | ok fate =>
          simp only [ha] at h
          cases hr : (carryOut around (attemptAll s r recorded
              (visitOf around s r recorded rejected e w).rejectedAfter rest)
              (visitOf around s r recorded rejected e w).after).1 with
          | error err => simp [hr, Except.map] at h
          | ok others =>
              obtain rfl : (e, fate) :: others = fates := by simpa [hr, Except.map] using h
              obtain ⟨hes, hvs⟩ := ih hr
              refine ⟨by rw [List.map_cons, hes], ?_⟩
              simp only [ha, List.map_cons, hvs]
              rfl

/-- The errands are visited in their order, as far as the visits go. -/
theorem visits_errands (es : List Errand) :
    (visits around s r recorded rejected es w).map Visit.errand <+: es := by
  induction es generalizing rejected w with
  | nil => exact List.nil_prefix
  | cons e rest ih =>
      rw [visits, List.map_cons]
      refine (List.prefix_cons_inj e).mpr ?_
      cases (visitOf around s r recorded rejected e w).answer with
      | error err => exact List.nil_prefix
      | ok fate => exact ih

theorem Visit.isEnded_iff (v : Visit) : v.isEnded = true ↔ ∃ x, v.answer = .ok (.ended x) := by
  obtain ⟨errand, rejected, before, answer, after⟩ := v
  cases answer with
  | error err => simp [isEnded]
  | ok fate => cases fate <;> simp [isEnded]

namespace Visit.IsOf

variable {v : Visit}

/-- A visit adds to what was sent. -/
theorem sent_eq (h : v.IsOf around s r recorded) : v.after.sent = v.before.sent ++ v.sent := by
  have hc : Confined (Stores.Keeps fun _ => ()) (fun _ => True)
      (visit s r recorded v.rejected v.errand) :=
    visit_confined (fun _ _ => rfl) (fun _ _ => rfl) (fun _ _ => rfl) fun _ => trivial
  obtain ⟨-, sent, hs, -⟩ := hc.carryOut around v.before
  rw [h] at hs
  rw [Visit.sent, hs, List.drop_left]

/-- A visit adds to the records, and only under its own key. -/
theorem added_eq (h : v.IsOf around s r recorded) :
    v.after.stores.records.rows = v.before.stores.records.rows ++ v.added ∧
      ∀ x ∈ v.added, ∃ outcome, x.attempt = v.errand.attempted s r outcome := by
  let P (x : Delivery.Record) : Prop := ∃ outcome, x.attempt = v.errand.attempted s r outcome
  have hc : Confined (Stores.Gains P) (fun _ => True)
      (visit s r recorded v.rejected v.errand) := by
    refine visit_confined (fun st outcome => ?_) (fun st counters => refl_of (Stores.Gains P) st)
      (fun st ledger => refl_of (Stores.Gains P) st) fun _ => trivial
    refine ⟨_, Delivery.Records.insertNew_rows .., fun x hx => ⟨outcome, ?_⟩⟩
    exact Delivery.Records.attempt_of_mem_added hx
  obtain ⟨⟨new, hn, hp⟩, -⟩ := hc.carryOut around v.before
  rw [h] at hn
  have ha : v.added = new := by rw [Visit.added, hn, List.drop_left]
  rw [ha]
  exact ⟨hn, hp⟩

theorem suppressed (h : v.IsOf around s r recorded) (hr : v.errand.connection.id ∈ v.rejected) :
    v.answer = .ok .suppressed ∧ v.after = v.before := by
  rw [IsOf, visit, if_pos (by simpa using hr)] at h
  exact ⟨congrArg Prod.fst h.symm, congrArg Prod.snd h.symm⟩

theorem skipped (h : v.IsOf around s r recorded) (hr : v.errand.connection.id ∉ v.rejected)
    (hk : v.errand.key ∈ recorded) : v.answer = .ok .skipped ∧ v.after = v.before := by
  rw [IsOf, visit, if_neg (by simpa using hr), if_pos (by simpa using hk)] at h
  exact ⟨congrArg Prod.fst h.symm, congrArg Prod.snd h.symm⟩

theorem attempted (h : v.IsOf around s r recorded) (hr : v.errand.connection.id ∉ v.rejected)
    (hk : v.errand.key ∉ recorded) :
    carryOut around (attempt s r v.errand) v.before = (v.answer, v.after) := by
  rwa [IsOf, visit, if_neg (by simpa using hr), if_neg (by simpa using hk)] at h

/-- Something is sent in a visit exactly when its connection was not rejected earlier in the run,
its key was not recorded before the run, and the errand is taken to its receiver. -/
theorem sent_ne_nil_iff (h : v.IsOf around s r recorded) :
    v.sent ≠ [] ↔ v.errand.connection.id ∉ v.rejected ∧ v.errand.key ∉ recorded ∧
      v.errand.Opens around s r v.before := by
  have idle (hw : v.after = v.before) : v.sent = [] := by
    rw [Visit.sent, hw, List.drop_length]
  by_cases hr : v.errand.connection.id ∈ v.rejected
  · simp [hr, idle (h.suppressed hr).2]
  by_cases hk : v.errand.key ∈ recorded
  · simp [hk, idle (h.skipped hr hk).2]
  rw [and_iff_right hr, and_iff_right hk, ← attempt_sent_ne_iff, h.attempted hr hk, h.sent_eq]
  simp

/-- The records matter to a visit only if they have its key. -/
theorem unrecorded (h : v.IsOf around s r recorded) (hk : v.errand.key ∉ recorded) :
    v.IsOf around s r [] := by
  have hvisit : visit s r recorded v.rejected v.errand = visit s r [] v.rejected v.errand := by
    simp [visit, hk]
  rw [IsOf, ← hvisit]
  exact h

/-- The one fate of an errand that is not broken off. -/
theorem fate_cases {fate : Fate} (h : v.IsOf around s r recorded) (ha : v.answer = .ok fate) :
    (fate = .suppressed ∧ v.errand.connection.id ∈ v.rejected) ∨
    (fate = .skipped ∧ v.errand.connection.id ∉ v.rejected ∧ v.errand.key ∈ recorded) ∨
    (fate = .withheld ∧ v.errand.connection.id ∉ v.rejected ∧ v.errand.key ∉ recorded ∧
      v.errand.Refused s r v.before) ∨
    ∃ x, fate = .ended x ∧ v.errand.connection.id ∉ v.rejected ∧ v.errand.key ∉ recorded ∧
      ¬v.errand.Refused s r v.before := by
  by_cases hr : v.errand.connection.id ∈ v.rejected
  · cases ha.symm.trans (h.suppressed hr).1
    exact Or.inl ⟨rfl, hr⟩
  by_cases hk : v.errand.key ∈ recorded
  · cases ha.symm.trans (h.skipped hr hk).1
    exact Or.inr (Or.inl ⟨rfl, hr, hk⟩)
  have hat := h.attempted hr hk
  rw [ha] at hat
  obtain ⟨rfl, hn, -⟩ | ⟨outcome, rejection, ledger, sent, hs, rfl, -⟩ := attempt_ok hat
  · exact Or.inr (Or.inr (Or.inl ⟨rfl, hr, hk, hn⟩))
  · exact Or.inr (Or.inr (Or.inr ⟨_, rfl, hr, hk, hs.not_refused⟩))

/-- What an errand that ended has sent and recorded. -/
theorem ended {x : Ending} (h : v.IsOf around s r recorded) (ha : v.answer = .ok (.ended x)) :
    (∃ ledger, v.errand.Settles around s r v.before x.outcome x.rejection ledger v.sent) ∧
      v.added = v.before.stores.records.added (v.errand.attempted s r x.outcome) ∧
      x.isRecorded = !v.before.stores.records.covers (v.errand.attempted s r x.outcome) := by
  obtain ⟨hf, -⟩ | ⟨hf, -⟩ | ⟨hf, -⟩ | ⟨_, -, hr, hk, -⟩ := h.fate_cases ha
  · cases hf
  · cases hf
  · cases hf
  have hat := h.attempted hr hk
  rw [ha] at hat
  obtain ⟨hf, -⟩ | ⟨outcome, rejection, ledger, sent, hs, hx, n, hw⟩ := attempt_ok hat
  · cases hf
  cases hx
  let st := { v.before.stores with ledger }
  obtain ⟨ho, hj, hi⟩ := Errand.concluded_ending s r v.errand outcome rejection st
  have hsent : v.sent = sent := by rw [Visit.sent, hw, List.drop_left]
  have hadded : v.added = v.before.stores.records.added (v.errand.attempted s r outcome) := by
    have hrows := Errand.concluded_records s r v.errand outcome rejection st
    rw [Visit.added, hw, hrows]
    exact List.drop_left
  rw [ho, hj, hi, hsent]
  exact ⟨⟨ledger, hs⟩, hadded, rfl⟩

/-- After an errand has ended there is a record of its key. -/
theorem recorded_of_isEnded (h : v.IsOf around s r recorded) (he : v.isEnded = true) :
    ∃ x ∈ v.before.stores.records.rows ++ v.added, x.attempt.event = r.id ∧
      (x.attempt.connection, x.attempt.article) = v.errand.key := by
  obtain ⟨x, ha⟩ := v.isEnded_iff.mp he
  obtain ⟨-, hadded, -⟩ := h.ended ha
  have hc := v.before.stores.records.insertNew_covers (v.errand.attempted s r x.outcome)
  rw [Delivery.Records.covers_iff, Delivery.Records.mem_ofEvent_iff,
    Delivery.Records.insertNew_rows, ← hadded] at hc
  exact hc

/-- A visit that does not come to an end of its own records and sends nothing. -/
theorem idle {fate : Fate} (h : v.IsOf around s r recorded) (ha : v.answer = .ok fate)
    (hf : ∀ x, fate ≠ .ended x) : v.added = [] ∧ v.sent = [] := by
  have unchanged {n : Nat} (hw : v.after = { v.before with calls := n }) :
      v.added = [] ∧ v.sent = [] := by
    rw [Visit.added, Visit.sent, hw]
    exact ⟨List.drop_length .., List.drop_length ..⟩
  obtain ⟨-, hr⟩ | ⟨-, hr, hk⟩ | ⟨-, hr, hk, -⟩ | ⟨x, hx, -⟩ := h.fate_cases ha
  · exact unchanged (h.suppressed hr).2
  · exact unchanged (h.skipped hr hk).2
  · have hat := h.attempted hr hk
    rw [ha] at hat
    obtain ⟨-, -, n, hw⟩ | ⟨_, _, _, _, -, hx, -⟩ := attempt_ok hat
    · exact unchanged hw
    · exact absurd hx (hf _)
  · exact absurd hx (hf x)

theorem isEnded_of_ne_nil (h : v.IsOf around s r recorded) (hok : v.answer.isOk = true)
    (hn : v.added ≠ [] ∨ v.sent ≠ []) : v.isEnded = true := by
  obtain ⟨fate, ha⟩ : ∃ fate, v.answer = .ok fate := by
    cases ha : v.answer with
    | error err => simp [ha, Except.isOk, Except.toBool] at hok
    | ok fate => exact ⟨fate, rfl⟩
  by_contra he
  rw [Visit.isEnded_iff, ha] at he
  obtain ⟨hadded, hsent⟩ := h.idle ha fun x hx => he ⟨x, by rw [hx]⟩
  exact hn.elim (absurd hadded) (absurd hsent)

end Visit.IsOf

namespace Linked

variable {vs pre post : List Visit} {v : Visit}

theorem split (h : Linked around s r recorded rejected w (pre ++ v :: post) w') :
    Linked around s r recorded rejected w pre v.before ∧ v.IsOf around s r recorded ∧
      (∀ u ∈ pre, u.answer.isOk = true) ∧
      Linked around s r recorded v.rejectedAfter v.after post w' := by
  induction pre generalizing rejected w with
  | nil =>
      cases h with
      | cons visit last others => exact ⟨.nil, visit, by simp, others⟩
  | cons u rest ih =>
      cases h with
      | cons visit last others =>
          obtain ⟨hr, hv, ho, hl⟩ := ih others
          have hu : u.answer.isOk = true := by
            by_contra hn
            simpa using last (by simpa using hn)
          refine ⟨.cons visit (fun hn => ?_) hr, hv, ?_, hl⟩
          · rw [hu] at hn
            cases hn
          · rintro x (_ | ⟨_, hx⟩)
            · exact hu
            · exact ho x hx

theorem isOf (h : Linked around s r recorded rejected w vs w') :
    ∀ v ∈ vs, v.IsOf around s r recorded := by
  induction h with
  | nil => simp
  | cons visit last others ih =>
      rintro v (_ | ⟨_, hv⟩)
      · exact visit
      · exact ih v hv

/-- A visit knows the connections that were rejected in the visits before it. -/
theorem mem_rejected_iff (h : Linked around s r recorded rejected w (pre ++ v :: post) w')
    (id : String) :
    id ∈ v.rejected ↔ id ∈ rejected ∨ RejectedIn pre id := by
  unfold RejectedIn
  induction pre generalizing rejected w with
  | nil =>
      cases h
      simp
  | cons u rest ih =>
      cases h with
      | cons visit last others =>
          rw [ih others, Visit.rejectedAfter, List.exists_mem_cons_iff]
          by_cases hu : u.isRejection = true
          · rw [if_pos hu, List.mem_cons, or_assoc, or_left_comm, and_iff_right hu, eq_comm]
          · have hn : ¬(u.isRejection = true ∧ u.errand.connection.id = id) := fun h => hu h.1
            rw [if_neg hu, or_iff_right hn]

/-- What every visit does to the stores is done to them by all visits together. -/
theorem relates {R : Stores → Stores → Prop} [IsPreorder Stores R]
    (hR : ∀ v : Visit, v.IsOf around s r recorded → R v.before.stores v.after.stores)
    (h : Linked around s r recorded rejected w vs w') : R w.stores w'.stores := by
  induction h with
  | nil => exact refl_of R _
  | cons visit last others ih => exact trans_of R (hR _ visit) ih

/-- What every visit adds to is added to by all visits together. -/
theorem gains {β : Type} {f : World → List β} {g : Visit → List β}
    (hf : ∀ v : Visit, v.IsOf around s r recorded → f v.after = f v.before ++ g v)
    (h : Linked around s r recorded rejected w vs w') : f w' = f w ++ vs.flatMap g := by
  induction h with
  | nil => simp
  | cons visit last others ih => rw [ih, hf _ visit, List.append_assoc, List.flatMap_cons]

end Linked

end Visits

end Run

end Newswire
