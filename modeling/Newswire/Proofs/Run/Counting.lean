import Newswire.Proofs.Rejection.Counters
import Newswire.Proofs.Run.Tours

/-!
# Counting rejections

A visit in which the connection is rejected counts the rejection, and no other visit touches a
counter. A connection is rejected at most once in a run, since it is not gone to again; so its
counter goes up by at most one, and there is at most one request to disable it.
-/

namespace Newswire

/-- The request to disable something that an event is, if it is one about that. -/
def Event.Output.disable? (scope : Scope) : Event.Output → Option DisableRequest
  | disable q => if q.scope = scope then some q else none
  | _ => none

namespace Run

/-- The requests to disable something that are reported. -/
def Report.disables (report : Report) (scope : Scope) : List DisableRequest :=
  report.events.filterMap (Event.Output.disable? scope)

/-- The rejection with which an errand ended, if it was one. -/
def Fate.rejection? : Fate → Option Rejection
  | ended x => x.rejection
  | _ => none

/-- The requests to disable something that an errand led to. -/
def Fate.disables (fate : Fate) (scope : Scope) : List DisableRequest :=
  match fate with
  | ended x => x.disable.toList.filter (·.scope = scope)
  | _ => []

namespace Visit

def rejection? (v : Visit) : Option Rejection := v.answer.toOption.bind Fate.rejection?

def disables (v : Visit) (scope : Scope) : List DisableRequest :=
  (v.answer.toOption.map (·.disables scope)).getD []

theorem isRejection_iff (v : Visit) : v.isRejection = true ↔ ∃ x, v.rejection? = some x := by
  have hsome : v.isRejection = v.rejection?.isSome := by
    rw [isRejection, rejection?]
    cases v.answer with
    | error err => rfl
    | ok fate => cases fate <;> rfl
  rw [hsome, Option.isSome_iff_exists]

end Visit

theorem rejectedIn_cons (v : Visit) (vs : List Visit) (id : String) :
    RejectedIn (v :: vs) id ↔
      v.isRejection = true ∧ v.errand.connection.id = id ∨ RejectedIn vs id := by
  simp [RejectedIn]

instance (vs : List Visit) (id : String) : Decidable (RejectedIn vs id) :=
  inferInstanceAs (Decidable (∃ u ∈ vs, _))

section Errand

variable (s : Setup) (r : Refresh) (e : Errand)

/-- The counters after an errand, which counts the rejection if it was one. -/
def Errand.counted (rejection : Option Rejection) (cs : Counters) : Counters :=
  match rejection with
  | none => cs
  | some _ => (cs.increment r.feed.id (.connection e.connection.id) s.now.millis).2

theorem Errand.counted_get?_of_ne {rejection : Option Rejection} {feed : String} {scope : Scope}
    (h : ∀ x, rejection = some x → feed = r.feed.id → scope ≠ .connection e.connection.id)
    (cs : Counters) : (e.counted s r rejection cs).get? feed scope = cs.get? feed scope := by
  cases rejection with
  | none => rfl
  | some x => exact cs.increment_get?_of_ne (h x rfl) s.now.millis

theorem Errand.counted_attempts (x : Rejection) (cs : Counters) :
    (e.counted s r (some x) cs).attempts r.feed.id (.connection e.connection.id) =
      cs.attempts r.feed.id (.connection e.connection.id) + 1 :=
  cs.increment_attempts ..

/-- The request to disable that the rejection of an errand leads to. -/
def Errand.disable? (rejection : Option Rejection) (cs : Counters) : Option DisableRequest :=
  rejection.bind fun x =>
    disableRequest? s.settings.threshold r.feed.id (.connection e.connection.id) x
      (cs.attempts r.feed.id (.connection e.connection.id) + 1)

theorem Errand.concluded_counters (outcome : Delivery.Outcome) (rejection : Option Rejection)
    (st : Stores) :
    (e.concluded s r outcome rejection st).2.counters = e.counted s r rejection st.counters ∧
      (e.concluded s r outcome rejection st).1.disable =
        e.disable? s r rejection st.counters := by
  cases rejection with
  | none => exact ⟨rfl, rfl⟩
  | some x =>
      rw [Errand.disable?, Option.bind_some, ← Counters.increment_fst]
      exact ⟨rfl, rfl⟩

theorem Errand.disable?_scope {rejection : Option Rejection} {cs : Counters}
    {q : DisableRequest} (h : e.disable? s r rejection cs = some q) :
    q.scope = .connection e.connection.id := by
  obtain ⟨x, -, hq⟩ := Option.bind_eq_some_iff.mp h
  unfold disableRequest? at hq
  split at hq
  · cases hq
    rfl
  · cases hq

end Errand

variable {around : Surroundings} {s : Setup} {r : Refresh} {recorded : List (String × String)}

/-- What is broken off while it is concluded has counted no rejection. -/
theorem conclude_error {e : Errand} {outcome : Delivery.Outcome} {rejection : Option Rejection}
    {w w' : World} {err : Error}
    (h : carryOut around (conclude s r e outcome rejection) w = (.error err, w')) :
    w'.stores.counters = w.stores.counters := by
  obtain h | ⟨isRecorded, v, hi, h⟩ := carryOut_bind_error around h
  · obtain ⟨failure, h⟩ := carryOut_store_error around h
    rw [carryOut_call_error around h]
  obtain ⟨-, rfl⟩ := carryOut_call_ok around (carryOut_store_ok around hi)
  cases rejection with
  | none => cases h
  | some x =>
      obtain h | ⟨disable, v, -, h⟩ := carryOut_bind_error around h
      · obtain ⟨failure, h⟩ := carryOut_store_error around h
        obtain h | ⟨n, u, -, h⟩ := carryOut_bind_error around h
        · obtain rfl | h := carryOut_withScope_error around h
          · rfl
          · rw [carryOut_call_error around h]
        · cases h
      · cases h

/-- An attempt counts the rejection in which it ends, and touches no counter otherwise. -/
theorem attempt_counters {e : Errand} {w w' : World} {answer : Except Error Fate}
    (h : carryOut around (attempt s r e) w = (answer, w')) :
    w'.stores.counters =
      e.counted s r (answer.toOption.bind Fate.rejection?) w.stores.counters := by
  obtain ⟨err, ledger, n, hc⟩ | ⟨-, n, hc⟩ | ⟨outcome, rejection, ledger, sent, n, -, hc⟩ :=
    attempt_cases around s r e w
  · rw [hc] at h
    cases h
    rfl
  · rw [hc] at h
    cases h
    rfl
  · rw [hc] at h
    cases answer with
    | error err =>
        have hw := conclude_error h
        exact hw
    | ok fate =>
        obtain ⟨rfl, m, rfl⟩ := conclude_ok h
        let st : Stores := { w.stores with ledger }
        have hx : (e.concluded s r outcome rejection st).1.rejection = rejection :=
          (e.concluded_ending s r outcome rejection st).2.1
        rw [Except.toOption, Option.bind_some, Fate.rejection?, hx]
        exact (e.concluded_counters s r outcome rejection st).1

theorem attempt_disable {e : Errand} {w w' : World} {x : Ending}
    (h : carryOut around (attempt s r e) w = (.ok (.ended x), w')) :
    x.disable = e.disable? s r x.rejection w.stores.counters := by
  obtain ⟨hf, -⟩ | ⟨outcome, rejection, ledger, sent, -, hx, -⟩ := attempt_ok h
  · cases hf
  · cases hx
    let st : Stores := { w.stores with ledger }
    have hx : (e.concluded s r outcome rejection st).1.rejection = rejection :=
      (e.concluded_ending s r outcome rejection st).2.1
    rw [hx]
    exact (e.concluded_counters s r outcome rejection st).2

namespace Visit.IsOf

variable {v : Visit}

theorem counters (h : v.IsOf around s r recorded) :
    v.after.stores.counters = v.errand.counted s r v.rejection? v.before.stores.counters := by
  by_cases hr : v.errand.connection.id ∈ v.rejected
  · obtain ⟨ha, hw⟩ := h.suppressed hr
    rw [rejection?, ha, hw]
    rfl
  by_cases hk : v.errand.key ∈ recorded
  · obtain ⟨ha, hw⟩ := h.skipped hr hk
    rw [rejection?, ha, hw]
    rfl
  · exact attempt_counters (h.attempted hr hk)

/-- A connection is not rejected again. -/
theorem not_mem_rejected (h : v.IsOf around s r recorded) (hx : v.isRejection = true) :
    v.errand.connection.id ∉ v.rejected := by
  intro hr
  rw [isRejection, (h.suppressed hr).1] at hx
  cases hx

/-- An errand that ended asks for what its rejection leads to. -/
theorem ended_disable {x : Ending} (h : v.IsOf around s r recorded)
    (ha : v.answer = .ok (.ended x)) :
    x.disable = v.errand.disable? s r x.rejection v.before.stores.counters := by
  obtain ⟨hf, -⟩ | ⟨hf, -⟩ | ⟨hf, -⟩ | ⟨_, -, hr, hk, -⟩ := h.fate_cases ha
  · cases hf
  · cases hf
  · cases hf
  exact attempt_disable (ha ▸ h.attempted hr hk)

/-- A visit asks for nothing but that its own connection be disabled. -/
theorem disable_scope {x : Ending} (h : v.IsOf around s r recorded)
    (ha : v.answer = .ok (.ended x)) :
    ∀ q ∈ x.disable.toList, q.scope = .connection v.errand.connection.id := by
  intro q hq
  exact v.errand.disable?_scope s r (h.ended_disable ha ▸ Option.mem_toList.mp hq)

theorem disables_eq (h : v.IsOf around s r recorded) (id : String) :
    v.disables (.connection id) =
      if v.errand.connection.id = id then
        (v.errand.disable? s r v.rejection? v.before.stores.counters).toList
      else [] := by
  rw [Visit.disables, Visit.rejection?]
  rcases ha : v.answer with err | fate
  · simp [Except.toOption, Errand.disable?]
  · cases fate with
    | ended x =>
        change x.disable.toList.filter _ = if _ then (v.errand.disable? s r x.rejection _).toList
          else []
        rw [← h.ended_disable ha]
        have hscope := h.disable_scope ha
        split
        · next hid =>
            refine List.filter_eq_self.mpr fun q hq => ?_
            simp [hscope q hq, hid]
        · next hid =>
            refine List.filter_eq_nil_iff.mpr fun q hq => ?_
            simp [hscope q hq, hid]
    | _ => simp [Except.toOption, Errand.disable?, Fate.disables, Fate.rejection?]

end Visit.IsOf

/-- What visits do to the counters: each connection that is rejected in them is counted once. -/
structure Counted (r : Refresh) (vs : List Visit) (cs cs' : Counters) : Prop where
  raised : ∀ id, cs'.attempts r.feed.id (.connection id) =
    cs.attempts r.feed.id (.connection id) + if RejectedIn vs id then 1 else 0
  /-- Every other counter is left as it is. -/
  kept : ∀ feed scope, (feed = r.feed.id → ∀ id, RejectedIn vs id → scope ≠ .connection id) →
    cs'.get? feed scope = cs.get? feed scope

namespace Linked

variable {rejected : List String} {w w' : World} {vs pre post : List Visit} {v : Visit}
  {id : String}

/-- After a connection was rejected it is not rejected again. -/
theorem not_rejectedIn (h : Linked around s r recorded rejected w vs w') (hid : id ∈ rejected) :
    ¬RejectedIn vs id := by
  rintro ⟨u, hu, hx, rfl⟩
  obtain ⟨pre, post, rfl⟩ := List.append_of_mem hu
  obtain ⟨-, hof, -⟩ := h.split
  exact hof.not_mem_rejected hx ((h.mem_rejected_iff _).mpr (Or.inl hid))

/-- A connection is rejected in no visit before or after the one that rejects it. -/
theorem split_at_rejection (h : Linked around s r recorded rejected w vs w') (hv : v ∈ vs)
    (hx : v.isRejection = true) :
    ∃ pre post, vs = pre ++ v :: post ∧ ¬RejectedIn pre v.errand.connection.id ∧
      ¬RejectedIn post v.errand.connection.id := by
  obtain ⟨pre, post, rfl⟩ := List.append_of_mem hv
  obtain ⟨-, hof, -, hpost⟩ := h.split
  refine ⟨pre, post, rfl, fun hpre => ?_, ?_⟩
  · exact hof.not_mem_rejected hx ((h.mem_rejected_iff _).mpr (Or.inr hpre))
  · exact hpost.not_rejectedIn (by simp [Visit.rejectedAfter, hx])

theorem counted (h : Linked around s r recorded rejected w vs w') :
    Counted r vs w.stores.counters w'.stores.counters := by
  induction h with
  | nil => exact ⟨fun id => by simp [RejectedIn], fun _ _ _ => rfl⟩
  | @cons v rest w' visit last others ih =>
      constructor
      · intro id
        rw [ih.raised id, visit.counters]
        by_cases hv : v.isRejection = true ∧ v.errand.connection.id = id
        · obtain ⟨hx, rfl⟩ := hv
          have hrest : ¬RejectedIn rest v.errand.connection.id :=
            others.not_rejectedIn (by simp [Visit.rejectedAfter, hx])
          obtain ⟨x, hsome⟩ := v.isRejection_iff.mp hx
          rw [hsome, Errand.counted_attempts, if_neg hrest,
            if_pos ((rejectedIn_cons ..).mpr (Or.inl ⟨hx, rfl⟩))]
        · have hiff : RejectedIn (v :: rest) id ↔ RejectedIn rest id := by
            rw [rejectedIn_cons, or_iff_right hv]
          have hg : (v.errand.counted s r v.rejection? v.before.stores.counters).get? r.feed.id
              (.connection id) = v.before.stores.counters.get? r.feed.id (.connection id) := by
            refine v.errand.counted_get?_of_ne s r (fun x hx _ he => hv ⟨?_, ?_⟩) _
            · exact v.isRejection_iff.mpr ⟨x, hx⟩
            · exact (Scope.connection.inj he).symm
          rw [Counters.attempts, Counters.attempts, hg]
          simp only [hiff]
      · intro feed scope hn
        rw [ih.kept feed scope fun hf id hid => hn hf id ((rejectedIn_cons ..).mpr (Or.inr hid)),
          visit.counters]
        refine v.errand.counted_get?_of_ne s r (fun x hx hf => ?_) _
        have hrejected : v.isRejection = true := v.isRejection_iff.mpr ⟨x, hx⟩
        exact hn hf _ ((rejectedIn_cons ..).mpr (Or.inl ⟨hrejected, rfl⟩))

theorem disables_of_not_rejectedIn (h : Linked around s r recorded rejected w vs w')
    (hn : ¬RejectedIn vs id) : vs.flatMap (·.disables (.connection id)) = [] := by
  refine List.flatMap_eq_nil_iff.mpr fun v hv => ?_
  rw [(h.isOf v hv).disables_eq]
  split
  · next hid =>
      have hx : v.rejection? = none := by
        by_contra hne
        have hsome := v.isRejection_iff.mpr (Option.ne_none_iff_exists'.mp hne)
        exact hn ⟨v, hv, hsome, hid⟩
      rw [hx]
      rfl
  · rfl

/-- One request at most goes out about a connection, when its one rejection in the run brings its
counter to the threshold. -/
theorem disables_of_rejection (h : Linked around s r recorded rejected w vs w') (hv : v ∈ vs)
    (hid : v.errand.connection.id = id) {x : Rejection} (hx : v.rejection? = some x) :
    vs.flatMap (·.disables (.connection id)) =
      (disableRequest? s.settings.threshold r.feed.id (.connection id) x
        (w.stores.counters.attempts r.feed.id (.connection id) + 1)).toList := by
  subst hid
  obtain ⟨pre, post, rfl, hpre, hpost⟩ := h.split_at_rejection hv (v.isRejection_iff.mpr ⟨x, hx⟩)
  obtain ⟨hp, hof, -, hr⟩ := h.split
  have hattempts := hp.counted.raised v.errand.connection.id
  rw [if_neg hpre, Nat.add_zero] at hattempts
  rw [List.flatMap_append, List.flatMap_cons, hp.disables_of_not_rejectedIn hpre,
    hr.disables_of_not_rejectedIn hpost, List.nil_append, List.append_nil, hof.disables_eq,
    if_pos rfl, hx, Errand.disable?, Option.bind_some, hattempts]

theorem exists_disables (h : Linked around s r recorded rejected w vs w') (hid : RejectedIn vs id) :
    ∃ x, vs.flatMap (·.disables (.connection id)) =
      (disableRequest? s.settings.threshold r.feed.id (.connection id) x
        (w.stores.counters.attempts r.feed.id (.connection id) + 1)).toList := by
  obtain ⟨v, hv, hx, hid⟩ := hid
  obtain ⟨x, hx⟩ := v.isRejection_iff.mp hx
  exact ⟨x, h.disables_of_rejection hv hid hx⟩

end Linked

theorem Fate.disables_eq (fate : Fate) (feed : String) (e : Errand) (scope : Scope) :
    (fate.events feed e).filterMap (Event.Output.disable? scope) = fate.disables scope := by
  cases fate with
  | ended x =>
      have hresult : (if x.isRecorded then [Event.Output.delivered feed e.connection.id e.identity
          x.outcome.status x.outcome.trouble?] else []).filterMap
            (Event.Output.disable? scope) = [] := by
        split <;> rfl
      rw [Fate.events, List.filterMap_append, hresult, List.nil_append, Fate.disables]
      cases x.disable with
      | none => rfl
      | some q => by_cases hq : q.scope = scope <;> simp [Event.Output.disable?, hq]
  | _ => rfl

/-- The requests that are reported are those of the visits. -/
theorem Visited.disables {w : World} {vs : List Visit} {fates : List (Errand × Fate)}
    (h : Visited s r w vs fates) (n : Nat) (ls : List Lane) (scope : Scope) :
    (Report.ofFates r.feed.id n ls fates).disables scope = vs.flatMap (·.disables scope) := by
  have hlanes : (ls.flatMap (Lane.events r.feed.id)).filterMap (Event.Output.disable? scope) =
      [] := by
    rw [List.filterMap_flatMap]
    refine List.flatMap_eq_nil_iff.mpr fun l _ => ?_
    unfold Lane.events
    split <;> rfl
  have hfates := congrArg (List.flatMap fun p : Errand × Except Error Fate =>
    (p.2.toOption.map (·.disables scope)).getD []) h.2
  rw [List.flatMap_map, List.flatMap_map] at hfates
  rw [Report.disables, Report.ofFates, List.filterMap_append, hlanes, List.nil_append,
    List.filterMap_flatMap]
  simp only [Fate.disables_eq]
  exact hfates.symm

/-- A run had rejections when one of its fates is one. -/
theorem Visited.any_isRejection {w : World} {vs : List Visit} {fates : List (Errand × Fate)}
    (h : Visited s r w vs fates) :
    fates.any (·.2.isRejection) = true ↔ ∃ id, RejectedIn vs id := by
  have hany := congrArg (List.any · fun p => p.2.toOption.any Fate.isRejection) h.2
  simp only [List.any_map] at hany
  have hvs : vs.any Visit.isRejection = fates.any (·.2.isRejection) := hany
  rw [← hvs, List.any_eq_true]
  constructor
  · rintro ⟨v, hv, hx⟩
    exact ⟨_, v, hv, hx, rfl⟩
  · rintro ⟨id, v, hv, hx, -⟩
    exact ⟨v, hv, hx⟩

end Run

end Newswire
