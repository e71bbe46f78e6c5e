import Newswire.Proofs.Run.Footprints
import Newswire.Proofs.Run.Matching
import Newswire.Proofs.Run.Rejections

/-!
# Connections of one event

What an event comes to for one of its connections does not depend on the others. As long as the
limit of the day has room for all of them, the connection gets the messages, the records and the
report that it would get from an event of its own.
-/

namespace Newswire

open Delivery (Attempt Records)

theorem Scope.connection_beq (id other : String) :
    (Scope.connection id == .connection other) = (id == other) := by
  rw [beq_eq_decide, beq_eq_decide, decide_eq_decide, Scope.connection.injEq]

/-- The event is about the connection. -/
def Event.Output.names (id : String) : Event.Output → Bool
  | delivered _ connection .. => connection == id
  | disable q => q.scope == .connection id
  | ruleFaults _ connection _ => connection == id

/-- What is answered to a message depends on nothing but what was sent through its connection. -/
def Receiver.PerConnection (receiver : Receiver) : Prop :=
  ∀ sent m, receiver sent m = receiver (sent.filter (·.connection == m.connection)) m

/-- The event without its other connections. -/
def Refresh.only (r : Refresh) (id : String) : Refresh :=
  { r with connections := r.connections.filter (·.id == id) }

namespace Run

/-- What a run comes to for one connection of its event. -/
structure Share where
  /-- What is reported about it, unless the run broke off. -/
  events : Except Error (List Event.Output)
  messages : List Sending
  attempts : List Attempt
  deriving DecidableEq

/-- What came for a connection of a run that started in `w`. -/
def shareOf (id : String) (w : World) (x : Except Error Report × World) : Share where
  events := x.1.map (·.events.filter (·.names id))
  messages := (x.2.sent.drop w.sent.length).filter (·.connection == id)
  attempts := Records.attempts ⟨x.2.stores.records.rows.drop w.stores.records.rows.length⟩
    (·.connection == id)

/-- The errand goes through the connection. -/
def Errand.isThrough (id : String) (e : Errand) : Bool := e.connection.id == id

/-- A list of lists passes a test as its parts do, each wholly or not at all. -/
theorem filter_flatMap_of {α β : Type} {as : List α} {f : α → List β} {test : β → Bool}
    {own : α → Bool} (h : ∀ a ∈ as, (f a).filter test = if own a then f a else []) :
    (as.flatMap f).filter test = (as.filter own).flatMap f := by
  induction as with
  | nil => rfl
  | cons a rest ih =>
      obtain ⟨ha, hrest⟩ := List.forall_mem_cons.mp h
      rw [List.flatMap_cons, List.filter_append, ha, ih hrest, List.filter_cons]
      split <;> simp

section Only

variable (s : Setup) (r : Refresh) (id : String)

theorem map_ofConnection_only :
    (r.only id).connections.map Lane.ofConnection =
      (r.connections.map Lane.ofConnection).filter (·.connection.id == id) := by
  rw [List.filter_map]
  rfl

theorem lanes_only (selection : Selection) :
    lanes (r.only id) selection = (lanes r selection).filter (·.connection.id == id) := by
  unfold lanes
  split
  · rfl
  · exact map_ofConnection_only r id

/-- The errands of the one connection are in their order among those of all connections. -/
theorem errands_only (selection : Selection) :
    errands (r.only id) selection = (errands r selection).filter (Errand.isThrough id) := by
  rw [errands, map_ofConnection_only, errands, Errand.all, Errand.all, List.filter_flatMap]
  refine congrArg (List.flatMap · _) (funext fun a => ?_)
  simp only [List.filter_map]
  rfl

theorem attemptAll_only (recorded : List (String × String)) (rejected : List String)
    (es : List Errand) :
    attemptAll s (r.only id) recorded rejected es = attemptAll s r recorded rejected es := by
  induction es generalizing rejected with
  | nil => rfl
  | cons e rest ih =>
      have hvisit : visit s (r.only id) recorded rejected e = visit s r recorded rejected e := rfl
      rw [attemptAll_cons, attemptAll_cons, hvisit]
      exact congrArg _ (funext fun fate => by rw [ih])

theorem errands_length (selection : Selection) :
    (errands r selection).length = selection.deliver.length * r.connections.length := by
  simp [errands, Errand.all, List.length_flatMap]

end Only

section Events

variable {around : Surroundings} {s : Setup} {r : Refresh} {recorded : List (String × String)}

theorem Lane.events_named (feed : String) (l : Lane) (id : String) :
    (l.events feed).filter (·.names id) =
      if l.connection.id == id then l.events feed else [] := by
  unfold Lane.events
  split
  · simp
  · rw [List.filter_singleton, Bool.cond_eq_ite]
    rfl

/-- What goes out about an errand names its own connection. -/
theorem Visit.IsOf.events_named {v : Visit} {fate : Fate} (h : v.IsOf around s r recorded)
    (ha : v.answer = .ok fate) (id : String) :
    (fate.events r.feed.id v.errand).filter (·.names id) =
      if v.errand.isThrough id then fate.events r.feed.id v.errand else [] := by
  cases fate with
  | ended x =>
      have hnames : ∀ o ∈ (Fate.ended x).events r.feed.id v.errand,
          o.names id = v.errand.isThrough id := by
        intro o ho
        rcases List.mem_append.mp ho with ho | ho
        · split at ho
          · rw [List.mem_singleton.mp ho]
            rfl
          · cases ho
        · obtain ⟨q, hq, rfl⟩ := List.mem_map.mp ho
          rw [Event.Output.names, h.disable_scope ha q hq]
          exact Scope.connection_beq ..
      rw [List.filter_congr hnames]
      cases v.errand.isThrough id <;> simp
  | _ => simp [Fate.events]

/-- What is reported about a connection is reported about its lane and its errands. -/
theorem ofFates_named {rejected : List String} {es : List Errand} {w : World}
    {fates : List (Errand × Fate)}
    (h : (carryOut around (attemptAll s r recorded rejected es) w).1 = .ok fates)
    (id : String) (n m : Nat) (ls : List Lane) :
    (Report.ofFates r.feed.id n ls fates).events.filter (·.names id) =
      (Report.ofFates r.feed.id m (ls.filter (·.connection.id == id))
        (fates.filter (·.1.isThrough id))).events := by
  have hfates : ∀ p ∈ fates, (p.2.events r.feed.id p.1).filter (·.names id) =
      if p.1.isThrough id then p.2.events r.feed.id p.1 else [] := by
    intro p hp
    have hm : (p.1, Except.ok p.2) ∈ fates.map fun p => (p.1, (.ok p.2 : Except Error Fate)) :=
      List.mem_map_of_mem hp
    rw [← (visits_of_ok h).2] at hm
    obtain ⟨v, hv, he⟩ := List.mem_map.mp hm
    obtain ⟨hv', ha⟩ := Prod.mk.inj he
    rw [← hv']
    exact ((linked_visits es).isOf v hv).events_named ha id
  rw [Report.ofFates, Report.ofFates, List.filter_append,
    filter_flatMap_of fun l _ => l.events_named r.feed.id id, filter_flatMap_of hfates]

end Events

/-- The stores say the same about a connection, and both ledgers have room for some more deliveries
of its feed on the day of the run. -/
structure SameThrough (s : Setup) (r : Refresh) (id : String) (room : Nat) (st tt : Stores) :
    Prop where
  records : st.records.attempts (·.connection == id) = tt.records.attempts (·.connection == id)
  counter : st.counters.get? r.feed.id (.connection id) =
    tt.counters.get? r.feed.id (.connection id)
  counts : ∀ since, st.ledger.countSince r.feed.id (some id) since =
    tt.ledger.countSince r.feed.id (some id) since
  numbered : st.ledger.Numbered ∧ tt.ledger.Numbered
  left : st.ledger.countSince r.feed.id none (Quota.dayStart s.now).millis + room ≤
    r.feed.dailyLimit.getD s.settings.dailyLimit
  right : tt.ledger.countSince r.feed.id none (Quota.dayStart s.now).millis + room ≤
    r.feed.dailyLimit.getD s.settings.dailyLimit

namespace SameThrough

variable {s : Setup} {r : Refresh} {id : String} {room : Nat} {st tt st' : Stores} {e : Errand}

theorem fewer (h : SameThrough s r id (room + 1) st tt) : SameThrough s r id room st tt where
  records := h.records
  counter := h.counter
  counts := h.counts
  numbered := h.numbered
  left := by have := h.left; omega
  right := by have := h.right; omega

/-- An errand through another connection takes up room, and no more than that. -/
theorem other (h : SameThrough s r id (room + 1) st tt) (he : e.isThrough id = false)
    (hf : e.Footprint s r st st') : SameThrough s r id room st' tt := by
  have hid : e.connection.id ≠ id := by simpa [Errand.isThrough] using he
  constructor
  · rw [← h.records, Records.attempts, List.filter_map, Records.attempts, List.filter_map]
    refine congrArg _ (hf.filter_records fun x outcome hx => ?_)
    simpa [hx, Errand.attempted] using hid
  · rw [← h.counter]
    exact hf.get?_of_ne fun _ hscope => hid (Scope.connection.inj hscope).symm
  · intro since
    rw [← h.counts]
    obtain hc | ⟨-, hthrough, -⟩ := hf.countSince h.numbered.1 r.feed.id (some id) since
    · exact hc
    · exact absurd (by simpa using hthrough) hid
  · exact ⟨hf.numbered h.numbered.1, h.numbered.2⟩
  · have hleft := h.left
    obtain hc | ⟨-, -, hc⟩ := hf.countSince h.numbered.1 r.feed.id none (Quota.dayStart s.now).millis
    · omega
    · omega
  · exact h.fewer.right

/-- What is recorded and counted of the connection's own errands is the same. -/
theorem respected (he : e.connection.id = id) :
    e.Respected s r (SameThrough s r id room) := by
  constructor
  · intro outcome st tt h
    have hkey : ∀ b : Delivery.Attempt, b.matchesKey (e.attempted s r outcome) = true →
        (b.connection == id) = true := by
      intro b hb
      simp only [Delivery.Attempt.matchesKey, Errand.attempted, Bool.and_eq_true, beq_iff_eq] at hb
      simp [hb.1.2, he]
    obtain ⟨hadded, hrecords⟩ :=
      Records.insertNew_alike hkey (by simp [Errand.attempted, he]) h.records
    exact ⟨hadded, { h with records := hrecords }⟩
  · intro st tt h
    dsimp only
    rw [he]
    have halike := Counters.increment_alike h.counter s.now.millis
    exact ⟨halike.1, { h with counter := halike.2 }⟩

/-- The connection's own errands are admitted by both ledgers, or by neither. -/
theorem admitted (he : e.connection.id = id) :
    e.Admitted s r (SameThrough s r id (room + 1)) (SameThrough s r id room) := by
  refine .of_counts (fun st tt h => h.fewer) (fun st tt h => ?_) (fun st tt h => ?_)
    fun st tt h => ?_
  · have hleft := h.left
    have hright := h.right
    simp only [limits]
    omega
  · rw [he]
    exact h.counts
  · have hleft := h.left
    have hright := h.right
    constructor
    · refine { h with counts := fun since => ?_, numbered := ?_, left := ?_, right := ?_ }
      · rw [Quota.Ledger.countSince_enter, Quota.Ledger.countSince_enter, h.counts]
      · exact ⟨h.numbered.1.enter _ _ _, h.numbered.2.enter _ _ _⟩
      · rw [Quota.Ledger.countSince_enter]
        split <;> omega
      · rw [Quota.Ledger.countSince_enter]
        split <;> omega
    · refine { h with counts := fun since => ?_, numbered := ?_, left := ?_, right := ?_ }
      · rw [h.numbered.1.countSince_release_enter, h.numbered.2.countSince_release_enter, h.counts]
      · exact ⟨(h.numbered.1.enter _ _ _).filter _, (h.numbered.2.enter _ _ _).filter _⟩
      · rw [h.numbered.1.countSince_release_enter]
        omega
      · rw [h.numbered.2.countSince_release_enter]
        omega

end SameThrough

/-- The stores say the same about a connection, and the same was sent through it. -/
structure Beside (s : Setup) (r : Refresh) (id : String) (room : Nat) (w w' : World) : Prop where
  stores : SameThrough s r id room w.stores w'.stores
  sent : w.sent.filter (·.connection == id) = w'.sent.filter (·.connection == id)

section Calm

variable {around : Surroundings} {s : Setup} {r : Refresh} (recorded : List (String × String))
  (rejected rejected' : List String) {id : String} {room : Nat} {w w' : World} {e : Errand}
  {es : List Errand} (hd : ¬around.Disturbed)

include hd

theorem exists_carryOut_visit (he : shows e.connection.id = true) :
    ∃ fate v, carryOut around (visit s r recorded rejected e) w = (.ok fate, v) := by
  have hb : Brittle (fun _ => True) False (visit s r recorded rejected e) :=
    visit_brittle (fun _ _ => trivial) fun hn => by simp [he] at hn
  obtain ⟨fate, hfate⟩ := hb.exists_ok (w := w) not_false hd
  exact ⟨fate, _, Prod.ext hfate rfl⟩

/-- A visit to another connection leaves the two worlds beside each other. -/
theorem visit_other (he : shows e.connection.id = true) (hown : e.isThrough id = false)
    (h : Beside s r id (room + 1) w w') :
    ∃ fate v, carryOut around (visit s r recorded rejected e) w = (.ok fate, v) ∧
      Beside s r id room v w' := by
  obtain ⟨fate, v, hv⟩ := exists_carryOut_visit (w := w) recorded rejected hd he
  let u : Visit := visitOf around s r recorded rejected e w
  have hof : u.IsOf around s r recorded := rfl
  have hafter : u.after = v := congrArg Prod.snd hv
  refine ⟨fate, v, hv, ?_, ?_⟩
  · rw [← hafter]
    exact h.stores.other hown hof.footprint
  · have hnone : u.sent.filter (·.connection == id) = [] := by
      apply List.filter_eq_nil_iff.mpr
      intro m hm
      have hm : m.connection = e.connection.id := hof.connection_of_mem_sent m hm
      simpa [Errand.isThrough, hm] using hown
    have hsent : v.sent = w.sent ++ u.sent := hafter ▸ hof.sent_eq
    rw [hsent, List.filter_append, hnone, List.append_nil, h.sent]

variable (hreceiver : around.receiver.PerConnection)
  (hrejected : id ∈ rejected ↔ id ∈ rejected')

include hreceiver

/-- The same befalls the connection in worlds that are beside each other. -/
theorem Beside.abreast (h : Beside s r id room w w') :
    Abreast (·.connection = id) around around w w' := by
  constructor
  · intro n
    funext kind
    have calm (m : Nat) : around.conditions m kind = none := by
      by_contra hne
      exact hd ⟨m, kind, hne⟩
    rw [calm, calm]
  · intro ms m hms hm
    have hfilter : ms.filter (·.connection == id) = ms :=
      List.filter_eq_self.mpr fun x hx => by simp [hms x hx]
    rw [hreceiver, hreceiver (w'.sent ++ ms), hm, List.filter_append, List.filter_append, h.sent,
      hfilter]

include hrejected

/-- A visit to the connection itself comes to the same in both worlds. -/
theorem visit_own (he : shows e.connection.id = true) (hown : e.connection.id = id)
    (h : Beside s r id (room + 1) w w') :
    ∃ fate v v', carryOut around (visit s r recorded rejected e) w = (.ok fate, v) ∧
      carryOut around (visit s r recorded rejected' e) w' = (.ok fate, v') ∧
      Beside s r id room v v' := by
  obtain ⟨fate, v, hv⟩ := exists_carryOut_visit (w := w) recorded rejected hd he
  obtain ⟨fate', v', hv'⟩ := exists_carryOut_visit (w := w') recorded rejected' hd he
  have hcontains : rejected.contains e.connection.id = rejected'.contains e.connection.id := by
    rw [Bool.eq_iff_iff]
    simpa [hown] using hrejected
  have hvisits : Matches (·.connection = id) (SameThrough s r id (room + 1))
      (visit s r recorded rejected e) (visit s r recorded rejected' e)
      (fun a b st tt => a = b ∧ SameThrough s r id room st tt) (SameThrough s r id room) :=
    visit_matches (fun _ _ => SameThrough.fewer) (SameThrough.respected hown)
      (SameThrough.admitted hown) (fun _ => hown) hcontains
  have hmatches := hvisits (h.abreast hd hreceiver) h.stores
  rw [hv, hv'] at hmatches
  obtain ⟨⟨-, ms, hms, hsent, hsent'⟩, rfl, hstores⟩ := hmatches
  refine ⟨fate, v, v', hv, hv', hstores, ?_⟩
  rw [hsent, hsent', List.filter_append, List.filter_append, h.sent]

/-- Among the errands of all connections, those of one connection come to what they come to by
themselves. -/
theorem attemptAll_beside (hes : ∀ e ∈ es, shows e.connection.id = true)
    (h : Beside s r id es.length w w') :
    ∃ fates v v', carryOut around (attemptAll s r recorded rejected es) w = (.ok fates, v) ∧
      carryOut around (attemptAll s r recorded rejected' (es.filter (Errand.isThrough id))) w' =
        (.ok (fates.filter (·.1.isThrough id)), v') ∧
      Beside s r id 0 v v' := by
  induction es generalizing rejected rejected' w w' with
  | nil => exact ⟨[], w, w', rfl, rfl, h⟩
  | cons e rest ih =>
      obtain ⟨he, hrest⟩ := List.forall_mem_cons.mp hes
      by_cases hown : e.connection.id = id
      · obtain ⟨fate, u, u', hu, hu', hbeside⟩ :=
          visit_own recorded rejected rejected' hd hreceiver hrejected he hown h
        obtain ⟨fates, v, v', hv, hv', hend⟩ :=
          ih (if fate.isRejection then e.connection.id :: rejected else rejected)
            (if fate.isRejection then e.connection.id :: rejected' else rejected')
            (by split <;> simp [hrejected]) hrest hbeside
        have hthrough : e.isThrough id = true := by simpa [Errand.isThrough] using hown
        refine ⟨(e, fate) :: fates, v, v', carryOut_attemptAll_ok hu hv, ?_, hend⟩
        have hfates : ((e, fate) :: fates).filter (·.1.isThrough id) =
            (e, fate) :: fates.filter (·.1.isThrough id) := List.filter_cons_of_pos hthrough
        rw [List.filter_cons_of_pos hthrough, hfates]
        exact carryOut_attemptAll_ok hu' hv'
      · have hthrough : e.isThrough id = false := by simpa [Errand.isThrough] using hown
        obtain ⟨fate, u, hu, hbeside⟩ := visit_other recorded rejected hd he hthrough h
        obtain ⟨fates, v, v', hv, hv', hend⟩ :=
          ih (if fate.isRejection then e.connection.id :: rejected else rejected) rejected'
            (by split <;> simp [hrejected, Ne.symm hown]) hrest hbeside
        refine ⟨(e, fate) :: fates, v, v', carryOut_attemptAll_ok hu hv, ?_, hend⟩
        have hfates : ((e, fate) :: fates).filter (·.1.isThrough id) =
            fates.filter (·.1.isThrough id) := List.filter_cons_of_neg (by simp [hthrough])
        rw [List.filter_cons_of_neg (by simp [hthrough]), hfates]
        exact hv'

omit hreceiver hrejected in
/-- An undisturbed run that has visited its errands reports on them. -/
theorem carryOut_closing_of_calm (selection : Selection) (fates : List (Errand × Fate)) :
    ∃ v, carryOut around (closing s r selection fates) w =
        (.ok (.ofFates r.feed.id selection.deliver.length (lanes r selection) fates), v) ∧
      v.sent = w.sent ∧ v.stores.records = w.stores.records := by
  have answered {kind : Store.Kind}
      (hu : unanswered around (closing s r selection fates) w = [kind]) : False := by
    have hne : unanswered around (closing s r selection fates) w ≠ [] := by simp [hu]
    exact hd (disturbed_of_unanswered hne)
  obtain ⟨m, ⟨hc, -⟩ | ⟨-, hu⟩ | ⟨-, hu⟩⟩ := closing_cases around s r selection fates w
  · exact ⟨_, hc, rfl, rfl⟩
  · exact (answered hu).elim
  · exact (answered hu).elim

omit hrejected in
/-- A run that has its lease comes to the same for a connection as one for that connection alone. -/
theorem deliver_beside (id : String) (hids : ∀ c ∈ r.connections, shows c.id = true)
    (hw : w.stores.ledger.Numbered)
    (hroom : w.stores.ledger.countSince r.feed.id none (Quota.dayStart s.now).millis +
        (selected s r w.stores.fingerprints).deliver.length * r.connections.length ≤
      r.feed.dailyLimit.getD s.settings.dailyLimit) :
    ∃ report v report' v', carryOut around (deliver s r) w = (.ok report, v) ∧
      carryOut around (deliver s (r.only id)) w = (.ok report', v') ∧
      report.events.filter (·.names id) = report'.events ∧
      v.sent.filter (·.connection == id) = v'.sent.filter (·.connection == id) ∧
      v.stores.records.attempts (·.connection == id) =
        v'.stores.records.attempts (·.connection == id) := by
  let selection := selected s r w.stores.fingerprints
  obtain ⟨n, ⟨recorded, hopening, -⟩ | ⟨hn, -⟩⟩ := opening_cases around s r w
  swap
  · exact absurd hn hd
  let u : World := { w with calls := n }
  have hes : ∀ e ∈ errands r selection, shows e.connection.id = true := by
    intro e he
    obtain ⟨a, -, he⟩ := List.mem_flatMap.mp he
    obtain ⟨l, hl, rfl⟩ := List.mem_map.mp he
    obtain ⟨c, hc, rfl⟩ := List.mem_map.mp hl
    exact hids c hc
  have hbeside : Beside s r id (errands r selection).length u u := by
    rw [errands_length]
    exact ⟨⟨rfl, rfl, fun _ => rfl, ⟨hw, hw⟩, hroom, hroom⟩, rfl⟩
  obtain ⟨fates, v, v', hv, hv', hend⟩ := attemptAll_beside recorded [] [] hd hreceiver
    Iff.rfl hes hbeside
  rw [← errands_only, ← attemptAll_only s r id] at hv'
  obtain ⟨x, hx, hsent, hrecords⟩ := carryOut_closing_of_calm (s := s) (r := r) (w := v) hd
    selection fates
  obtain ⟨x', hx', hsent', hrecords'⟩ := carryOut_closing_of_calm (s := s) (r := r.only id)
    (w := v') hd selection (fates.filter (·.1.isThrough id))
  have through {r' : Refresh} {fates : List (Errand × Fate)} {v x : World} {report : Report}
      (hopening : carryOut around (opening s r') w = (.ok (selection, recorded), u))
      (hv : carryOut around (attemptAll s r' recorded [] (errands r' selection)) u =
        (.ok fates, v))
      (hx : carryOut around (closing s r' selection fates) v = (.ok report, x)) :
      carryOut around (deliver s r') w = (.ok report, x) := by
    rw [deliver_eq, carryOut_bind, hopening]
    dsimp only
    rw [carryOut_bind, hv]
    exact hx
  refine ⟨_, x, _, x', through hopening hv hx, through hopening hv' hx', ?_, ?_, ?_⟩
  · rw [lanes_only]
    exact ofFates_named (congrArg Prod.fst hv) id _ _ _
  · rw [hsent, hsent', hend.sent]
  · rw [hrecords, hrecords', hend.stores.records]

end Calm

/-- What came for a connection is told by what is there after the run, since nothing of what was
there before it is lost. -/
theorem shareOf_eq {id : String} {w : World} {x x' : Except Error Report × World}
    {ms ms' : List Sending} {rows rows' : List Delivery.Record}
    (hevents : x.1.map (·.events.filter (·.names id)) = x'.1.map (·.events.filter (·.names id)))
    (hms : x.2.sent = w.sent ++ ms) (hms' : x'.2.sent = w.sent ++ ms')
    (hrows : x.2.stores.records.rows = w.stores.records.rows ++ rows)
    (hrows' : x'.2.stores.records.rows = w.stores.records.rows ++ rows')
    (hsent : x.2.sent.filter (·.connection == id) = x'.2.sent.filter (·.connection == id))
    (hrecords : x.2.stores.records.attempts (·.connection == id) =
      x'.2.stores.records.attempts (·.connection == id)) :
    shareOf id w x = shareOf id w x' := by
  rw [hms, hms', List.filter_append, List.filter_append, List.append_cancel_left_eq] at hsent
  rw [Records.attempts, Records.attempts, hrows, hrows', List.map_append, List.map_append,
    List.filter_append, List.filter_append, List.append_cancel_left_eq] at hrecords
  rw [shareOf, shareOf, hevents, hms, hms', hrows, hrows', List.drop_left, List.drop_left,
    List.drop_left, List.drop_left, hsent, Records.attempts, Records.attempts, hrecords]

/-- A connection gets from an event what it would get from the event without its other connections:
the same messages, records and report. The limit of the day has room for every errand of the event,
and what is answered to a message depends on nothing but what went through its connection. Of the
stores it is only asked that no reservation has a number still to be given out, as none has after
any history (`numbered_history`). -/
theorem share_only (receiver : Receiver) (s : Setup) (r : Refresh) (id : String) (w : World)
    (hreceiver : receiver.PerConnection) (hids : ∀ c ∈ r.connections, shows c.id = true)
    (hw : w.stores.ledger.Numbered)
    (hroom : w.stores.ledger.countSince r.feed.id none (Quota.dayStart s.now).millis +
        (selected s r w.stores.fingerprints).deliver.length * r.connections.length ≤
      r.feed.dailyLimit.getD s.settings.dailyLimit) :
    shareOf id w (carryOut { receiver } (handle s (.deliver r)) w) =
      shareOf id w (carryOut { receiver } (handle s (.deliver (r.only id))) w) := by
  let around : Surroundings := { receiver }
  have hd : ¬around.Disturbed := fun ⟨n, kind, h⟩ => h rfl
  have hacquiring : acquiring s (r.only id) = acquiring s r := rfl
  have hhandle := carryOut_handle around s r w
  have hhandle' := carryOut_handle around s (r.only id) w
  rw [hacquiring] at hhandle'
  obtain ⟨n, ⟨-, hc, -⟩ | ⟨-, hc, -⟩ | ⟨⟨err, hc⟩, -⟩⟩ := carryOut_acquire around "lease acquire"
    r.feed.id s.holder s.asked s.settings.leaseSeconds w
  · let v : World := ⟨{ w.stores with
      leases := w.stores.leases.taken r.feed.id s.holder
        (Leases.expiry s.asked s.settings.leaseSeconds) }, n, w.sent⟩
    obtain ⟨report, u, report', u', hu, hu', hevents, hsent, hrecords⟩ :=
      deliver_beside (s := s) (r := r) (w := v) hd hreceiver id hids hw hroom
    obtain ⟨leases, m, hr, -⟩ := carryOut_release around "lease release" r.feed.id s.holder u
    obtain ⟨leases', m', hr', -⟩ := carryOut_release around "lease release" r.feed.id s.holder u'
    rw [acquiring, hc] at hhandle hhandle'
    change _ = ((carryOut around (deliver s r) v).1, (carryOut around (releasing s r)
      (carryOut around (deliver s r) v).2).2) at hhandle
    change _ = ((carryOut around (deliver s (r.only id)) v).1, (carryOut around (releasing s r)
      (carryOut around (deliver s (r.only id)) v).2).2) at hhandle'
    rw [hu, releasing, hr] at hhandle
    rw [hu', releasing, hr'] at hhandle'
    refine shareOf_eq ?_ (handle_sent ..) (handle_sent ..) (handle_records ..) (handle_records ..)
      ?_ ?_
    · rw [hhandle, hhandle']
      simp [Except.map, ← hevents, List.filter_filter]
    · rw [hhandle, hhandle']
      exact hsent
    · rw [hhandle, hhandle']
      exact hrecords
  · rw [acquiring, hc] at hhandle hhandle'
    rw [hhandle, hhandle']
    rfl
  · rw [acquiring, hc] at hhandle hhandle'
    rw [hhandle, hhandle']

/-- A connection whose neighbour is rejected gets both articles, as it would alone. -/
theorem share_beside_rejected :
    let act (r : Refresh) :=
      carryOut { receiver := refusing "b" } (handle strictSetup (.deliver r)) rebuffedWorld
    let r := repeatedConnectionEvent
    Receiver.PerConnection (refusing "b") ∧ (∀ c ∈ r.connections, shows c.id = true) ∧
      rebuffedWorld.stores.ledger.Numbered ∧
      rebuffedWorld.stores.ledger.countSince r.feed.id none (Quota.dayStart strictSetup.now).millis +
          (selected strictSetup r rebuffedWorld.stores.fingerprints).deliver.length *
            r.connections.length ≤
        r.feed.dailyLimit.getD strictSetup.settings.dailyLimit ∧
      (shareOf "a" rebuffedWorld (act r)).messages.length = 2 ∧
      shareOf "a" rebuffedWorld (act r) = shareOf "a" rebuffedWorld (act (r.only "a")) := by
  intro act r
  have hreceiver : Receiver.PerConnection (refusing "b") := fun _ _ => rfl
  have hids : ∀ c ∈ r.connections, shows c.id = true := by decide +kernel
  have hw : rebuffedWorld.stores.ledger.Numbered := Quota.Ledger.numbered_empty
  have hroom : rebuffedWorld.stores.ledger.countSince r.feed.id none
        (Quota.dayStart strictSetup.now).millis +
          (selected strictSetup r rebuffedWorld.stores.fingerprints).deliver.length *
            r.connections.length ≤
        r.feed.dailyLimit.getD strictSetup.settings.dailyLimit := by decide +kernel
  refine ⟨hreceiver, hids, hw, hroom, by decide +kernel, ?_⟩
  exact share_only (refusing "b") strictSetup r "a" rebuffedWorld hreceiver hids hw hroom

end Run

end Newswire
