import Mathlib.Data.List.Induction
import Mathlib.Logic.Function.Basic
import Newswire.Proofs.Lease.Tenure
import Newswire.Proofs.Run.Stages

/-!
# Runs that take turns

Runs that deliver go on side by side, one call or message at a time. As long as none of them
outlives its lease, no two of a feed are under way at once: whoever comes meanwhile finds the feed
busy and leaves everything as it is.
-/

namespace Newswire.Run

/-- The rest of a run: what is still to be done until there is an answer. -/
abbrev Rest := Plan (Except Error Report)

/-- What a run that delivers starts from. -/
structure Entrant where
  setup : Setup
  refresh : Refresh

namespace Entrant

variable (e : Entrant)

def feed : String := e.refresh.feed.id

/-- When the lease runs out that the run asks for, in milliseconds. -/
def expires : Int := Leases.expiry e.setup.asked e.setup.settings.leaseSeconds

/-- The lease that the run asks for. -/
def lease : Lease := ⟨e.feed, e.setup.holder, e.expires⟩

def plan : Rest := (handle e.setup (.deliver e.refresh)).run

/-- Gives the lease back, and then the answer. -/
def finish (answer : Except Error Report) : Rest :=
  (releasing e.setup e.refresh).run.bind fun _ => .done answer

/-- What is left of the run once it was told whether it has the lease. -/
def afterAsking : Except Store.Outage Bool → Rest
  | .error o => .done (.error ((Store.Failure.outage o).error "lease acquire"))
  | .ok false => .done (.error (.feedBusy e.feed))
  | .ok true => (deliver e.setup e.refresh).run.bind e.finish

/-- A run that delivers asks for its lease before anything else. -/
theorem plan_eq :
    e.plan = .call ⟨.acquireLease, fun st =>
      let (taken, leases) :=
        st.leases.acquire e.feed e.setup.holder e.setup.asked e.setup.settings.leaseSeconds
      (taken, { st with leases })⟩ e.afterAsking := by
  change Plan.call _ _ = Plan.call _ _
  congr 1
  funext answer
  rcases answer with o | _ | _ <;> rfl

end Entrant

/-- How far a run has come. One that is under way has got its lease and has not yet given it
back. -/
inductive Progress where
  | waiting
  | underWay (rest : Rest)
  | ended (answer : Except Error Report)

namespace Progress

/-- A run of which nothing is left has ended. -/
def ofRest : Rest → Progress
  | .done answer => ended answer
  | rest => underWay rest

def isUnderWay : Progress → Bool
  | underWay _ => true
  | _ => false

end Progress

/-- What is left of a run. -/
def Entrant.rest (e : Entrant) : Progress → Rest
  | .waiting => e.plan
  | .underWay rest => rest
  | .ended answer => .done answer

/-- The world in which runs take turns, and how far each has come. -/
structure Scene (ι : Type) where
  world : World
  progress : ι → Progress

/-- It is the turn of one of the runs to take a step, at some moment. -/
structure Turn (ι : Type) where
  run : ι
  time : Instant

section Play

variable {ι : Type} [DecidableEq ι] (around : Surroundings) (entrants : ι → Entrant)

/-- One run takes a step: it makes a call or sends a message. -/
def Scene.take (sc : Scene ι) (i : ι) : Scene ι :=
  let (rest, world) := ((entrants i).rest (sc.progress i)).step around sc.world
  ⟨world, Function.update sc.progress i (.ofRest rest)⟩

/-- What runs that have all been waiting have come to after their turns. -/
def play (w : World) (ts : List (Turn ι)) : Scene ι :=
  ts.foldl (fun sc t => sc.take around entrants t.run) ⟨w, fun _ => .waiting⟩

def Scene.isUnderWay (sc : Scene ι) (i : ι) : Bool := (sc.progress i).isUnderWay

/-- Every run looks at the clock before its first step, and it is under way only as long as its
lease has not run out. -/
structure Timely (w : World) (ts : List (Turn ι)) : Prop where
  read : ∀ t ∈ ts, (entrants t.run).setup.asked ≤ t.time
  lasting : ∀ pre t post, ts = pre ++ t :: post → ∀ i,
    (play around entrants w pre).isUnderWay i = true → t.time < .ofMillis (entrants i).expires

/-- What comes of the call of a run that asks for a lease which another has. -/
def Entrant.refusal (e : Entrant) (w : World) : Error :=
  match around.conditions w.calls .acquireLease with
  | none => .feedBusy e.feed
  | some o => (Store.Failure.outage o).error "lease acquire"

/-- A run gets under way when it asks for a lease that is free and is answered. It has the lease as
long as it is under way, and no two runs of a feed are. One that asks for the lease meanwhile is
told that the feed is busy, or is not answered, and ends; beyond that call nothing changes. -/
structure Exclusive (w : World) (ts : List (Turn ι)) : Prop where
  enters : ∀ pre t post, ts = pre ++ t :: post →
    let sc := play around entrants w pre
    let e := entrants t.run
    sc.progress t.run = .waiting →
    sc.world.stores.leases.isFree e.feed e.setup.holder e.setup.asked = true →
    around.conditions sc.world.calls .acquireLease = none →
    (sc.take around entrants t.run).isUnderWay t.run = true
  held : ∀ pre post, ts = pre ++ post → ∀ i,
    (play around entrants w pre).isUnderWay i = true →
    (play around entrants w pre).world.stores.leases.get? (entrants i).feed =
      some (entrants i).lease
  alone : ∀ pre post, ts = pre ++ post → ∀ i j,
    (play around entrants w pre).isUnderWay i = true →
    (play around entrants w pre).isUnderWay j = true →
    (entrants i).feed = (entrants j).feed → i = j
  busy : ∀ pre t post, ts = pre ++ t :: post →
    let sc := play around entrants w pre
    sc.progress t.run = .waiting → ∀ j, sc.isUnderWay j = true →
    (entrants j).feed = (entrants t.run).feed →
    sc.take around entrants t.run =
      ⟨{ sc.world with calls := sc.world.calls + 1 },
        Function.update sc.progress t.run
          (.ended (.error ((entrants t.run).refusal around sc.world)))⟩

theorem Entrant.rest_ofRest (e : Entrant) (rest : Rest) : e.rest (.ofRest rest) = rest := by
  cases rest <;> rfl

/-- A step of a run is part of carrying it out: what the run comes to when it goes on by itself
stays the same. -/
theorem Scene.run_take (sc : Scene ι) (i : ι) :
    ((entrants i).rest ((sc.take around entrants i).progress i)).run around
        (sc.take around entrants i).world =
      ((entrants i).rest (sc.progress i)).run around sc.world := by
  have hprogress : (sc.take around entrants i).progress i =
      .ofRest (((entrants i).rest (sc.progress i)).step around sc.world).1 :=
    Function.update_self ..
  rw [hprogress, Entrant.rest_ofRest]
  change (Plan.step ..).1.run around (Plan.step ..).2 = _
  cases (entrants i).rest (sc.progress i) <;> rfl

end Play

section Carries

variable {e : Entrant} {rest : Rest}

/-- What is left of a run under way leaves the leases alone, until the lease is given back at the
end. -/
def Entrant.Carries (e : Entrant) (rest : Rest) : Prop :=
  ∃ body : Rest, body.Confined (Stores.Keeps Stores.leases) (fun _ => True) ∧
    rest = body.bind e.finish

theorem deliver_confined (s : Setup) (r : Refresh) :
    Confined (Stores.Keeps Stores.leases) (fun _ => True) (deliver s r) := by
  rw [deliver_eq]
  apply Confined.bind
  · apply Confined.bind (.store _ (Selection.choose_confined ..))
    intro selection
    exact .bind (.ite (.pure _) (.store _ (.ask _ _))) fun recorded => .pure _
  · rintro ⟨selection, recorded⟩
    apply Confined.bind
    · exact attemptAll_confined (fun _ _ _ => rfl) (fun _ _ => rfl) (fun _ _ => rfl)
        (fun _ => trivial) _
    · exact closing_confined (fun _ => rfl) (fun _ => rfl)

theorem Entrant.carries_deliver (e : Entrant) :
    e.Carries ((deliver e.setup e.refresh).run.bind e.finish) :=
  ⟨_, deliver_confined e.setup e.refresh, rfl⟩

theorem Entrant.Carries.ofRest (h : e.Carries rest) : Progress.ofRest rest = .underWay rest := by
  obtain ⟨body, -, rfl⟩ := h
  cases body <;> rfl

/-- A step of a run under way leaves the leases alone, or it gives the lease back and is the
last. -/
theorem Entrant.Carries.step (h : e.Carries rest) (around : Surroundings) (w : World) :
    let (rest', w') := rest.step around w
    (e.Carries rest' ∧ w'.stores.leases = w.stores.leases) ∨
      (∃ answer, rest' = .done answer) ∧
        ∀ other ≠ e.feed, w'.stores.leases.get? other = w.stores.leases.get? other := by
  obtain ⟨body, hbody, rfl⟩ := h
  cases body with
  | done answer =>
      -- All that is left is to give the lease back, whether or not the call is answered.
      refine Or.inr ⟨⟨answer, rfl⟩, fun other ho => ?_⟩
      have hgiven : Stores.Keeps (·.leases.get? other) w.stores
          (w.answer around ⟨.releaseLease, fun st =>
            let (released, leases) := st.leases.release e.feed e.setup.holder
            (released, { st with leases })⟩).2.stores :=
        w.answer_stores around _ fun st =>
          (st.leases.release_get?_of_ne e.setup.holder ho).symm
      exact hgiven.symm
  | call c next =>
      have hkept := w.answer_stores around c hbody.1
      exact Or.inl ⟨⟨_, hbody.2 _, rfl⟩, hkept.symm⟩
  | send m next => exact Or.inl ⟨⟨_, hbody.2 _, rfl⟩, rfl⟩

end Carries

section Sound

variable {ι : Type} {around : Surroundings} {entrants : ι → Entrant} {sc : Scene ι} {w : World}
  {ts : List (Turn ι)} {i j : ι}

/-- Whoever is under way has the lease of the feed, and goes on without touching the leases. -/
structure Scene.Sound (entrants : ι → Entrant) (sc : Scene ι) : Prop where
  carries : ∀ i rest, sc.progress i = .underWay rest → (entrants i).Carries rest
  held : ∀ i, sc.isUnderWay i = true →
    sc.world.stores.leases.get? (entrants i).feed = some (entrants i).lease

/-- A run that takes its first step asks for the lease. -/
theorem Scene.take_of_waiting [DecidableEq ι] (hi : sc.progress i = .waiting) :
    sc.take around entrants i =
      match around.conditions sc.world.calls .acquireLease with
      | some o =>
        ⟨{ sc.world with calls := sc.world.calls + 1 }, Function.update sc.progress i
          (.ended (.error ((Store.Failure.outage o).error "lease acquire")))⟩
      | none =>
        let e := entrants i
        let (taken, leases) := sc.world.stores.leases.acquire e.feed e.setup.holder e.setup.asked
          e.setup.settings.leaseSeconds
        ⟨⟨{ sc.world.stores with leases }, sc.world.calls + 1, sc.world.sent⟩,
          Function.update sc.progress i (.ofRest (e.afterAsking (.ok taken)))⟩ := by
  rw [Scene.take, hi, Entrant.rest, Entrant.plan_eq]
  simp only [Plan.step, World.answer_eq]
  cases around.conditions sc.world.calls .acquireLease <;> rfl

/-- A run that asks for a free lease gets under way, if it is answered. -/
theorem Scene.isUnderWay_take [DecidableEq ι] (hi : sc.progress i = .waiting)
    (hfree : sc.world.stores.leases.isFree (entrants i).feed (entrants i).setup.holder
      (entrants i).setup.asked = true)
    (hc : around.conditions sc.world.calls .acquireLease = none) :
    (sc.take around entrants i).isUnderWay i = true := by
  rw [Scene.take_of_waiting hi, hc]
  simp only [Leases.acquire_of_free hfree, Scene.isUnderWay, Function.update_self]
  rw [Entrant.afterAsking, (entrants i).carries_deliver.ofRest]
  rfl

namespace Scene.Sound

variable (h : sc.Sound entrants)

include h

theorem held_lease (hi : sc.isUnderWay i = true) :
    Leases.Held (entrants i).feed (entrants i).setup.holder (entrants i).expires
      sc.world.stores.leases :=
  Leases.held_of_get? (h.held i hi)

/-- No two runs of a feed are under way. -/
theorem alone (holders : Function.Injective fun i => (entrants i).setup.holder)
    (hi : sc.isUnderWay i = true) (hj : sc.isUnderWay j = true)
    (hf : (entrants i).feed = (entrants j).feed) : i = j := by
  have hlease : some (entrants i).lease = some (entrants j).lease := by
    rw [← h.held i hi, ← h.held j hj, hf]
  apply holders
  exact congrArg Lease.holder (Option.some.inj hlease)

variable [DecidableEq ι]

/-- A run that has taken a step without disturbing the others. -/
theorem update {world : World} {p : Progress}
    (hothers : ∀ j ≠ i, sc.isUnderWay j = true →
      world.stores.leases.get? (entrants j).feed =
        sc.world.stores.leases.get? (entrants j).feed)
    (hown : ∀ rest, p = .underWay rest → (entrants i).Carries rest ∧
      world.stores.leases.get? (entrants i).feed = some (entrants i).lease) :
    Scene.Sound entrants ⟨world, Function.update sc.progress i p⟩ := by
  constructor
  · intro j rest hj
    change Function.update sc.progress i p j = _ at hj
    by_cases hij : j = i
    · subst hij
      rw [Function.update_self] at hj
      exact (hown rest hj).1
    · rw [Function.update_of_ne hij] at hj
      exact h.carries j rest hj
  · intro j hj
    change (Function.update sc.progress i p j).isUnderWay = true at hj
    by_cases hij : j = i
    · subst hij
      rw [Function.update_self] at hj
      cases p with
      | underWay rest => exact (hown rest rfl).2
      | waiting => cases hj
      | ended answer => cases hj
    · rw [Function.update_of_ne hij] at hj
      exact (hothers j hij hj).trans (h.held j hj)

/-- A run that has ended without disturbing the others. -/
theorem ended {world : World} {answer : Except Error Report}
    (hothers : ∀ j ≠ i, sc.isUnderWay j = true →
      world.stores.leases.get? (entrants j).feed =
        sc.world.stores.leases.get? (entrants j).feed) :
    Scene.Sound entrants ⟨world, Function.update sc.progress i (.ended answer)⟩ := by
  apply h.update hothers
  intro rest hrest
  cases hrest

/-- Whoever asks for a lease that another has not outlived ends at once and changes nothing. -/
theorem refused (holders : Function.Injective fun i => (entrants i).setup.holder)
    (hi : sc.progress i = .waiting) (hj : sc.isUnderWay j = true)
    (hf : (entrants j).feed = (entrants i).feed)
    (hnow : (entrants i).setup.asked < .ofMillis (entrants j).expires) :
    sc.take around entrants i =
      ⟨{ sc.world with calls := sc.world.calls + 1 },
        Function.update sc.progress i
          (.ended (.error ((entrants i).refusal around sc.world)))⟩ := by
  have hij : i ≠ j := by
    rintro rfl
    rw [Scene.isUnderWay, hi] at hj
    cases hj
  have hheld := h.held_lease hj
  rw [hf] at hheld
  have hrefused := hheld.refused _ (fun he => hij (holders he)) _ hnow
    ((entrants i).setup.settings.leaseSeconds * 1000000000)
  have hasked : sc.world.stores.leases.acquire (entrants i).feed (entrants i).setup.holder
      (entrants i).setup.asked (entrants i).setup.settings.leaseSeconds =
        (false, sc.world.stores.leases) := hrefused
  rw [Scene.take_of_waiting hi, Entrant.refusal]
  cases around.conditions sc.world.calls .acquireLease with
  | some o => rfl
  | none =>
      simp only [hasked]
      rfl

/-- A run that asks for a lease which nobody under way has gets it, or it ends. -/
theorem take_waiting (hi : sc.progress i = .waiting)
    (hj : ∀ j, sc.isUnderWay j = true → (entrants j).feed ≠ (entrants i).feed) :
    (sc.take around entrants i).Sound entrants := by
  rw [Scene.take_of_waiting hi]
  cases around.conditions sc.world.calls .acquireLease with
  | some o => exact h.ended fun j _ _ => rfl
  | none =>
      dsimp only
      cases hfree : sc.world.stores.leases.isFree (entrants i).feed (entrants i).setup.holder
          (entrants i).setup.asked with
      | true =>
          have hcarries := (entrants i).carries_deliver
          rw [Leases.acquire_of_free hfree, Entrant.afterAsking, hcarries.ofRest]
          apply h.update
          · intro j _ hunder
            exact Leases.get?_taken_of_ne _ _ _ (hj j hunder)
          · intro rest hrest
            cases hrest
            exact ⟨hcarries, Leases.get?_taken ..⟩
      | false =>
          rw [Leases.acquire_of_not_free hfree]
          exact h.ended fun j _ _ => rfl

/-- One step of a run leaves all runs sound, as long as none of those under way has outlived its
lease when another asks for it. -/
theorem take (holders : Function.Injective fun i => (entrants i).setup.holder)
    (hnow : sc.progress i = .waiting → ∀ j, sc.isUnderWay j = true →
      (entrants i).setup.asked < .ofMillis (entrants j).expires) :
    (sc.take around entrants i).Sound entrants := by
  cases hi : sc.progress i with
  | waiting =>
      by_cases hj : ∃ j, sc.isUnderWay j = true ∧ (entrants j).feed = (entrants i).feed
      · obtain ⟨j, hj, hf⟩ := hj
        rw [h.refused holders hi hj hf (hnow hi j hj)]
        exact h.ended fun j _ _ => rfl
      · exact h.take_waiting hi fun j hu hf => hj ⟨j, hu, hf⟩
  | underWay rest =>
      have hu : sc.isUnderWay i = true := by
        rw [Scene.isUnderWay, hi]
        rfl
      have hstep := (h.carries i rest hi).step around sc.world
      rw [Scene.take, hi, Entrant.rest]
      rcases hnext : rest.step around sc.world with ⟨rest', w'⟩
      rw [hnext] at hstep
      obtain ⟨hcarries, hleases⟩ | ⟨⟨answer, rfl⟩, hleases⟩ := hstep
      · apply h.update
        · intro j _ _
          rw [hleases]
        · intro rest'' hrest
          cases hcarries.ofRest.symm.trans hrest
          exact ⟨hcarries, by rw [hleases, h.held i hu]⟩
      · -- The leases of other feeds stay, and nobody else of this feed is under way.
        apply h.ended
        intro j hij hj
        exact hleases _ fun hf => hij (h.alone holders hj hu hf)
  | ended answer =>
      rw [Scene.take, hi]
      exact h.ended fun j _ _ => rfl

end Scene.Sound

variable [DecidableEq ι]

theorem play_append (us : List (Turn ι)) :
    play around entrants w (ts ++ us) =
      us.foldl (fun sc t => sc.take around entrants t.run) (play around entrants w ts) :=
  List.foldl_append ..

theorem Timely.of_append {us : List (Turn ι)} (h : Timely around entrants w (ts ++ us)) :
    Timely around entrants w ts where
  read t ht := h.read t (List.mem_append_left us ht)
  lasting pre t post hsplit :=
    h.lasting pre t (post ++ us) (by rw [hsplit, List.append_assoc, List.cons_append])

/-- Nobody under way has outlived its lease when another run asks for one. -/
theorem Timely.now_lt {pre post : List (Turn ι)} {t : Turn ι}
    (h : Timely around entrants w (pre ++ t :: post))
    (hj : (play around entrants w pre).isUnderWay j = true) :
    (entrants t.run).setup.asked < .ofMillis (entrants j).expires := by
  have hread := h.read t (List.mem_append_right pre (List.mem_cons_self ..))
  exact Int.lt_of_le_of_lt hread (h.lasting pre t post rfl j hj)

/-- Runs that take turns stay sound. -/
theorem sound_play (holders : Function.Injective fun i => (entrants i).setup.holder)
    (h : Timely around entrants w ts) : (play around entrants w ts).Sound entrants := by
  induction ts using List.reverseRecOn with
  | nil =>
      constructor
      · intro i rest hi
        cases hi
      · intro i hi
        cases hi
  | append_singleton pre t ih =>
      rw [play_append]
      exact (ih h.of_append).take holders fun _ j hj => h.now_lt hj

/-- Runs of which none outlives its lease keep each other out of their feeds. -/
theorem exclusive_of_timely (holders : Function.Injective fun i => (entrants i).setup.holder)
    (h : Timely around entrants w ts) : Exclusive around entrants w ts where
  enters := by
    rintro pre t post rfl sc e hi hfree hc
    exact Scene.isUnderWay_take hi hfree hc
  held := by
    rintro pre post rfl
    exact (sound_play holders h.of_append).held
  alone := by
    rintro pre post rfl i j hi hj
    exact (sound_play holders h.of_append).alone holders hi hj
  busy := by
    rintro pre t post rfl sc hi j hj hf
    exact (sound_play holders h.of_append).refused holders hi hj hf (h.now_lt hj)

/-- A run that is not given a turn stays where it is. -/
theorem progress_of_forall_ne {us : List (Turn ι)} (h : ∀ t ∈ us, t.run ≠ i) :
    (play around entrants w (ts ++ us)).progress i = (play around entrants w ts).progress i := by
  induction us using List.reverseRecOn with
  | nil => rw [List.append_nil]
  | append_singleton us t ih =>
      have ht : t.run ≠ i := h t (List.mem_append_right us (List.mem_singleton_self t))
      rw [← List.append_assoc, play_append]
      refine Eq.trans ?_ (ih fun u hu => h u (List.mem_append_left [t] hu))
      exact Function.update_of_ne (Ne.symm ht) _ _

/-- Runs that have all come to their end, each by steps that it took before its lease ran out, have
not outlived their leases. -/
theorem timely_of_ended (ordered : ts.Pairwise (·.time ≤ ·.time))
    (read : ∀ t ∈ ts, (entrants t.run).setup.asked ≤ t.time)
    (own : ∀ pre t post, ts = pre ++ t :: post →
      (play around entrants w pre).isUnderWay t.run = true →
      t.time < .ofMillis (entrants t.run).expires)
    (ended : ∀ i, (play around entrants w ts).isUnderWay i = false) :
    Timely around entrants w ts where
  read := read
  lasting := by
    rintro pre t post rfl i hi
    cases hlater : (t :: post).find? (·.run = i) with
    | some u =>
        -- The next step of the run is one of those that it took in time.
        obtain ⟨hu, us, vs, hsplit, hus⟩ := List.find?_eq_some_iff_append.mp hlater
        obtain rfl : u.run = i := of_decide_eq_true hu
        have hstays : (play around entrants w (pre ++ us)).isUnderWay u.run = true := by
          rw [Scene.isUnderWay, progress_of_forall_ne fun x hx => by simpa using hus x hx]
          exact hi
        have hlast := own (pre ++ us) u vs (by rw [hsplit, List.append_assoc]) hstays
        have hle : t.time ≤ u.time := by
          have hsorted := (List.pairwise_append.mp ordered).2.1
          have hmem : u ∈ t :: post := List.mem_of_find?_eq_some hlater
          rcases List.mem_cons.mp hmem with rfl | hmem
          · exact Int.le_refl _
          · exact (List.pairwise_cons.mp hsorted).1 u hmem
        exact Int.lt_of_le_of_lt hle hlast
    | none =>
        have hne : ∀ u ∈ t :: post, u.run ≠ i := by simpa using hlater
        have hend := ended i
        rw [Scene.isUnderWay, progress_of_forall_ne hne, ← Scene.isUnderWay, hi] at hend
        cases hend

end Sound

/-- A lease runs out at the end of its time or less than two milliseconds before, as long as these
can be told. It stays with its holder until it has run out and another takes it, and nobody else can
give it back. Therefore runs that take turns, none of which outlives its lease, keep each other out
of their feeds. -/
theorem leases_exclusive :
    (∀ (now : Instant) (nanos : Nat),
      let expires := Instant.ofMillis (Leases.expiryAfter now nanos)
      let last := Instant.ofMillis Leases.lastMoment
      expires.nanos ≤ now.nanos + nanos ∧
        (nanos ≤ last.nanos → now.nanos + nanos ≤ last.nanos →
          now.nanos + nanos < expires.nanos + 2000000)) ∧
    (∀ (ls : Leases) (feed holder : String) (now : Instant) (nanos : Nat)
      (rs : List Leases.Request), (ls.acquireFor feed holder now nanos).1 = true →
      let leased := (ls.acquireFor feed holder now nanos).2
      let expires := Leases.expiryAfter now nanos
      Leases.Spared feed holder leased rs →
        Leases.TakenOver feed holder expires leased rs ∨
          Leases.Held feed holder expires (leased.afterAll rs)) ∧
    (∀ (ls : Leases) (feed holder : String),
      (∀ l, ls.get? feed = some l → l.holder ≠ holder) →
        ls.release feed holder = (false, ls)) ∧
    ∀ (ι : Type) [DecidableEq ι] (around : Surroundings) (entrants : ι → Entrant) (w : World)
      (ts : List (Turn ι)), (Function.Injective fun i => (entrants i).setup.holder) →
        Timely around entrants w ts → Exclusive around entrants w ts := by
  refine ⟨?_, ?_, ?_, ?_⟩
  · intro now nanos expires last
    exact ⟨Leases.expiryAfter_le now nanos, Leases.lt_expiryAfter now nanos⟩
  · intro ls feed holder now nanos rs hgranted leased expires hspared
    exact (Leases.held_of_acquireFor hgranted).afterAll hspared
  · intro ls feed holder hother
    exact Leases.release_of_not_holder hother
  · intro ι _ around entrants w ts holders htimely
    exact exclusive_of_timely holders htimely

/-- Two runs of a feed, the second of which comes while the first is under way. -/
def overlapping (first : Bool) : Entrant where
  setup := { now := ⟨if first then 0 else 1⟩, holder := if first then "a" else "b" }
  refresh := { id := "e", feed := { id := "f" } }

theorem leases_exclusive_overlapping :
    let second : Nat := 1000000000
    let leased := (({} : Leases).acquireFor "f" "a" ⟨900000⟩ second).2
    let lost := (leased.acquireFor "f" "b" ⟨1000000000⟩ second).2
    let rs : List Leases.Request :=
      [.acquire "f" "b" ⟨999999999⟩ 5, .release "f" "b", .delete "g"]
    let ts : List (Turn Bool) := [⟨true, ⟨0⟩⟩, ⟨false, ⟨1⟩⟩, ⟨true, ⟨2⟩⟩]
    Leases.expiryAfter ⟨900000⟩ second = 1000 ∧
    (Leases.Spared "f" "a" leased rs ∧
      (Leases.TakenOver "f" "a" (Leases.expiryAfter ⟨900000⟩ second) leased rs ∨
        Leases.Held "f" "a" (Leases.expiryAfter ⟨900000⟩ second) (leased.afterAll rs))) ∧
    lost.release "f" "a" = (false, lost) ∧
    (play {} overlapping {} [⟨true, ⟨0⟩⟩]).isUnderWay true = true ∧
    (play {} overlapping {} [⟨true, ⟨0⟩⟩, ⟨false, ⟨1⟩⟩]).progress false =
      .ended (.error (.feedBusy "f")) ∧
    Timely {} overlapping {} ts ∧ Exclusive {} overlapping {} ts := by
  intro second leased lost rs ts
  have hspared : Leases.Spared "f" "a" leased rs := by
    intro pre r post hsplit hr
    have hnone : ∀ r ∈ rs, r.concerns "f" "a" = false := by decide
    rw [hnone r (by simp [hsplit])] at hr
    cases hr
  have hlost : lost.get? "f" = some ⟨"f", "b", 2000⟩ := by decide
  have holders : Function.Injective fun i => (overlapping i).setup.holder := by
    unfold Function.Injective
    decide
  have htimes : ∀ t ∈ ts, t.time < ⟨3⟩ := by decide
  have hlong : ∀ i, ⟨3⟩ ≤ Instant.ofMillis (overlapping i).expires := by decide
  have htimely : Timely {} overlapping {} ts := by
    constructor
    · decide
    · intro pre t post hsplit i _
      have ht : t ∈ ts := by simp [hsplit]
      exact Int.lt_of_lt_of_le (htimes t ht) (hlong i)
  obtain ⟨-, hkept, hrelease, hexclusive⟩ := leases_exclusive
  refine ⟨by decide, ⟨hspared, hkept {} "f" "a" ⟨900000⟩ second rs (by decide) hspared⟩,
    hrelease lost "f" "a" ?_, rfl, rfl, htimely,
    hexclusive Bool {} overlapping {} ts holders htimely⟩
  intro l hl
  obtain rfl := Option.some.inj (hlost.symm.trans hl)
  decide

/-- A lease for a minute that is taken in the middle of a millisecond goes to another less than a
minute later. -/
theorem lease_cut_short :
    let minute : Nat := 60000000000
    let taken := ({} : Leases).acquireFor "f" "a" ⟨900000⟩ minute
    taken.1 = true ∧ Leases.Spared "f" "a" taken.2 [] ∧
      (60000500000 : Int) < 900000 + minute ∧
      (taken.2.acquireFor "f" "b" ⟨60000500000⟩ minute).1 = true := by
  refine ⟨by decide, fun pre r post h => ?_, by decide, by decide⟩
  simp at h

end Newswire.Run
