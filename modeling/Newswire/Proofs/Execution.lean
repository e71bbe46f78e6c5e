import Mathlib.Order.Defs.Unbundled
import Newswire.Run.Basic

/-!
# Carrying out plans

Plans are carried out one after the other, and a failure breaks off what would come next. A plan is
confined to a relation on stores when each of its calls keeps to it, whatever was answered before;
the stores before and after such a plan are then related. An action that only asks leaves all as it
was.
-/

namespace Newswire

namespace World

variable {β : Type} (w : World) (around : Surroundings) (c : Store.Call β)

theorem answer_sent : (w.answer around c).2.sent = w.sent := rfl

/-- A call is answered and has its effect, or something befalls it and it has none. -/
theorem answer_eq :
    w.answer around c =
      match around.conditions w.calls c.kind with
      | some o => (.error o, { w with calls := w.calls + 1 })
      | none =>
        (.ok (c.effect w.stores).1,
          { w with stores := (c.effect w.stores).2, calls := w.calls + 1 }) := by
  rw [answer, around.isAtomic w.calls c.kind, Store.Conditions.answered]
  cases around.conditions w.calls c.kind <;> rfl

/-- A call changes the stores by its effect, or not at all. -/
theorem answer_stores {R : Stores → Stores → Prop} [Std.Refl R] (h : ∀ s, R s (c.effect s).2) :
    R w.stores (w.answer around c).2.stores := by
  rw [answer_eq]
  cases around.conditions w.calls c.kind with
  | some o => exact refl_of R _
  | none => exact h _

end World

namespace Plan

variable {α β γ : Type}

theorem bind_done (p : Plan α) : p.bind done = p := by
  induction p with
  | done a => rfl
  | call c next ih => exact congrArg (call c) (funext ih)
  | send s next ih => exact congrArg (send s) (funext ih)

theorem bind_bind (p : Plan α) (f : α → Plan β) (g : β → Plan γ) :
    (p.bind f).bind g = p.bind fun a => (f a).bind g := by
  induction p with
  | done a => rfl
  | call c next ih => exact congrArg (call c) (funext ih)
  | send s next ih => exact congrArg (send s) (funext ih)

instance : LawfulMonad Plan :=
  LawfulMonad.mk' Plan bind_done (fun _ _ => rfl) bind_bind

theorem run_bind (around : Surroundings) (p : Plan α) (f : α → Plan β) (w : World) :
    (p >>= f).run around w = (f (p.run around w).1).run around (p.run around w).2 := by
  change (p.bind f).run around w = _
  induction p generalizing w with
  | done a => rfl
  | call c next ih => exact ih _ _
  | send s next ih => exact ih _ _

/-- What was sent stays sent. -/
theorem exists_sent (around : Surroundings) (p : Plan α) (w : World) :
    ∃ ms, (p.run around w).2.sent = w.sent ++ ms := by
  induction p generalizing w with
  | done a => exact ⟨[], (List.append_nil _).symm⟩
  | call c next ih =>
      obtain ⟨ms, hms⟩ := ih (w.answer around c).1 (w.answer around c).2
      exact ⟨ms, w.answer_sent around c ▸ hms⟩
  | send s next ih =>
      obtain ⟨ms, hms⟩ := ih (w.receive around.receiver s).1 (w.receive around.receiver s).2
      exact ⟨s :: ms, by simpa [run, World.receive] using hms⟩

end Plan

section CarryOut

variable {ε α β : Type} (around : Surroundings)

/-- Carries out a plan that may break off. -/
def carryOut (act : ExceptT ε Plan α) (w : World) : Except ε α × World := act.run.run around w

@[simp] theorem carryOut_pure (a : α) (w : World) :
    carryOut around (pure a : ExceptT ε Plan α) w = (.ok a, w) := rfl

@[simp] theorem carryOut_throw (e : ε) (w : World) :
    carryOut around (throw e : ExceptT ε Plan α) w = (.error e, w) := rfl

/-- What comes next is carried out unless there was a failure. -/
theorem carryOut_bind (x : ExceptT ε Plan α) (f : α → ExceptT ε Plan β) (w : World) :
    carryOut around (x >>= f) w =
      match carryOut around x w with
      | (.ok a, w') => carryOut around (f a) w'
      | (.error e, w') => (.error e, w') := by
  simp only [carryOut, ExceptT.run_bind, Plan.run_bind]
  rcases x.run.run around w with ⟨answer, w'⟩
  cases answer <;> rfl

/-- Both parts of what comes to its end have come to theirs. -/
theorem carryOut_bind_ok {x : ExceptT ε Plan α} {f : α → ExceptT ε Plan β} {w w' : World} {b : β}
    (h : carryOut around (x >>= f) w = (.ok b, w')) :
    ∃ a v, carryOut around x w = (.ok a, v) ∧ carryOut around (f a) v = (.ok b, w') := by
  rw [carryOut_bind] at h
  rcases hx : carryOut around x w with ⟨a | a, v⟩ <;> rw [hx] at h
  · cases h
  · exact ⟨a, v, rfl, h⟩

/-- What breaks off has done so in its first part or after it. -/
theorem carryOut_bind_error {x : ExceptT ε Plan α} {f : α → ExceptT ε Plan β} {w w' : World}
    {err : ε} (h : carryOut around (x >>= f) w = (.error err, w')) :
    carryOut around x w = (.error err, w') ∨
      ∃ a v, carryOut around x w = (.ok a, v) ∧ carryOut around (f a) v = (.error err, w') := by
  rw [carryOut_bind] at h
  rcases hx : carryOut around x w with ⟨a | a, v⟩ <;> rw [hx] at h
  · cases h
    exact Or.inl rfl
  · exact Or.inr ⟨a, v, rfl, h⟩

@[simp] theorem carryOut_map (f : α → β) (x : ExceptT ε Plan α) (w : World) :
    carryOut around (f <$> x) w = ((carryOut around x w).1.map f, (carryOut around x w).2) := by
  rw [map_eq_pure_bind, carryOut_bind]
  rcases carryOut around x w with ⟨a | a, v⟩ <;> rfl

/-- A plan that cannot break off, as part of one that can. -/
@[simp] theorem carryOut_lift (p : Plan α) (w : World) :
    carryOut around (liftM p : ExceptT ε Plan α) w =
      (.ok (p.run around w).1, (p.run around w).2) :=
  Plan.run_bind around p (fun a => (.done (.ok a) : Plan (Except ε α))) w

/-- What is done at the end is done whatever came before, and its answer does not matter. -/
theorem carryOut_lastly (act : ExceptT ε Plan α) (last : ExceptT ε Plan β) (w : World) :
    carryOut around (.mk do
        let result ← act.run
        let _ ← last.run
        return result : ExceptT ε Plan α) w =
      ((carryOut around act w).1, (carryOut around last (carryOut around act w).2).2) := by
  change (act.run >>= _).run around w = _
  rw [Plan.run_bind, Plan.run_bind]
  rfl

theorem carryOut_store (step : String) (act : Store.Action α) (w : World) :
    carryOut around (Run.store step act) w =
      ((carryOut around act w).1.mapError (·.error step), (carryOut around act w).2) := by
  change (Except.mapError _ <$> act.run).run around w = _
  rw [map_eq_pure_bind, Plan.run_bind]
  rfl

theorem carryOut_store_ok {step : String} {act : Store.Action α} {w w' : World} {a : α}
    (h : carryOut around (Run.store step act) w = (.ok a, w')) :
    carryOut around act w = (.ok a, w') := by
  rw [carryOut_store] at h
  rcases hx : carryOut around act w with ⟨e | b, v⟩ <;> rw [hx] at h
  · cases h
  · cases h
    rfl

theorem carryOut_store_error {step : String} {act : Store.Action α} {w w' : World} {err : Error}
    (h : carryOut around (Run.store step act) w = (.error err, w')) :
    ∃ failure, carryOut around act w = (.error failure, w') := by
  rw [carryOut_store] at h
  rcases hx : carryOut around act w with ⟨failure | b, v⟩ <;> rw [hx] at h
  · cases h
    exact ⟨failure, rfl⟩
  · cases h

theorem carryOut_call (kind : Store.Kind) (effect : Stores → α × Stores) (w : World) :
    carryOut around (Store.call kind effect) w =
      match around.conditions w.calls kind with
      | some o => (.error (.outage o), { w with calls := w.calls + 1 })
      | none =>
        (.ok (effect w.stores).1,
          { w with stores := (effect w.stores).2, calls := w.calls + 1 }) := by
  simp only [carryOut, Store.call, ExceptT.run_mk, Plan.run, World.answer_eq]
  cases around.conditions w.calls kind <;> rfl

theorem carryOut_call_ok {kind : Store.Kind} {effect : Stores → α × Stores} {w w' : World} {a : α}
    (h : carryOut around (Store.call kind effect) w = (.ok a, w')) :
    a = (effect w.stores).1 ∧
      w' = { w with stores := (effect w.stores).2, calls := w.calls + 1 } := by
  rw [carryOut_call] at h
  cases hc : around.conditions w.calls kind with
  | some o => simp [hc] at h
  | none =>
      simp only [hc, Prod.mk.injEq, Except.ok.injEq] at h
      exact ⟨h.1.symm, h.2.symm⟩

theorem carryOut_call_error {kind : Store.Kind} {effect : Stores → α × Stores} {w w' : World}
    {failure : Store.Failure}
    (h : carryOut around (Store.call kind effect) w = (.error failure, w')) :
    w'.stores = w.stores := by
  rw [carryOut_call] at h
  cases hc : around.conditions w.calls kind with
  | some o =>
      rw [hc] at h
      cases h
      rfl
  | none =>
      rw [hc] at h
      cases h

/-- What is done about a scope is done about a valid one. -/
theorem carryOut_withScope_ok {scope : Scope} {act : Store.Action α} {w w' : World} {a : α}
    (h : carryOut around (Store.withScope scope act) w = (.ok a, w')) :
    scope.isValid = true ∧ carryOut around act w = (.ok a, w') := by
  unfold Store.withScope at h
  split at h
  · next hv => exact ⟨hv, h⟩
  · simp at h

theorem carryOut_withScope_error {scope : Scope} {act : Store.Action α} {w w' : World}
    {failure : Store.Failure}
    (h : carryOut around (Store.withScope scope act) w = (.error failure, w')) :
    w' = w ∨ carryOut around act w = (.error failure, w') := by
  unfold Store.withScope at h
  split at h
  · exact Or.inr h
  · cases h
    exact Or.inl rfl

end CarryOut

section Confined

variable {ε α β : Type}

/-- Every call changes the stores as `R` allows, and every message is one of `P`, whatever was
answered before. -/
def Plan.Confined (R : Stores → Stores → Prop) (P : Sending → Prop) : Plan α → Prop
  | done _ => True
  | call c next => (∀ s, R s (c.effect s).2) ∧ ∀ answer, (next answer).Confined R P
  | send s next => P s ∧ ∀ answer, (next answer).Confined R P

variable {R : Stores → Stores → Prop} {P : Sending → Prop}

theorem Plan.Confined.bind {p : Plan α} {f : α → Plan β} (hp : p.Confined R P)
    (hf : ∀ a, (f a).Confined R P) : (p >>= f).Confined R P := by
  change (p.bind f).Confined R P
  induction p with
  | done a => exact hf a
  | call c next ih => exact ⟨hp.1, fun answer => ih answer (hp.2 answer)⟩
  | send s next ih => exact ⟨hp.1, fun answer => ih answer (hp.2 answer)⟩

/-- What a confined plan does to a world. -/
theorem Plan.Confined.run [IsPreorder Stores R] (around : Surroundings) {p : Plan α}
    (hp : p.Confined R P) (w : World) :
    R w.stores (p.run around w).2.stores ∧
      ∃ sent, (p.run around w).2.sent = w.sent ++ sent ∧ ∀ s ∈ sent, P s := by
  induction p generalizing w with
  | done a => exact ⟨refl_of R _, [], by simp [Plan.run], by simp⟩
  | call c next ih =>
      obtain ⟨hr, sent, hs, hP⟩ := ih (w.answer around c).1 (hp.2 _)
        (w.answer around c).2
      have hw := w.answer_stores around c hp.1
      exact ⟨trans_of R hw hr, sent, w.answer_sent around c ▸ hs, hP⟩
  | send s next ih =>
      obtain ⟨hr, sent, hs, hP⟩ := ih (w.receive around.receiver s).1 (hp.2 _)
        (w.receive around.receiver s).2
      refine ⟨hr, s :: sent, ?_, ?_⟩
      · simpa [Plan.run, World.receive] using hs
      · rintro t (_ | ⟨_, ht⟩)
        · exact hp.1
        · exact hP t ht

/-- A plan that may break off is confined when the plan is. -/
def Confined (R : Stores → Stores → Prop) (P : Sending → Prop) (act : ExceptT ε Plan α) : Prop :=
  act.run.Confined R P

namespace Confined

theorem pure (a : α) : Confined R P (pure a : ExceptT ε Plan α) := trivial

theorem throw (e : ε) : Confined R P (throw e : ExceptT ε Plan α) := trivial

theorem bind {x : ExceptT ε Plan α} {f : α → ExceptT ε Plan β} (hx : Confined R P x)
    (hf : ∀ a, Confined R P (f a)) : Confined R P (x >>= f) :=
  Plan.Confined.bind hx fun
    | .ok a => hf a
    | .error _ => trivial

theorem map (f : α → β) {x : ExceptT ε Plan α} (hx : Confined R P x) : Confined R P (f <$> x) := by
  rw [map_eq_pure_bind]
  exact hx.bind fun a => pure (f a)

theorem lift {p : Plan α} (hp : p.Confined R P) :
    Confined R P (liftM p : ExceptT ε Plan α) :=
  Plan.Confined.bind hp fun _ => trivial

theorem call {kind : Store.Kind} {effect : Stores → α × Stores} (h : ∀ s, R s (effect s).2) :
    Confined R P (Store.call kind effect) :=
  ⟨h, fun _ => trivial⟩

theorem ask [Std.Refl R] (kind : Store.Kind) (f : Stores → α) :
    Confined R P (Store.ask kind f) := call fun s => refl_of R s

theorem ite {c : Prop} [Decidable c] {x y : ExceptT ε Plan α} (hx : Confined R P x)
    (hy : Confined R P y) : Confined R P (if c then x else y) := by
  split
  · exact hx
  · exact hy

theorem store {act : Store.Action α} (step : String) (h : Confined R P act) :
    Confined R P (Run.store step act) := by
  change (Except.mapError _ <$> act.run).Confined R P
  rw [map_eq_pure_bind]
  exact Plan.Confined.bind h fun _ => trivial

theorem withScope {scope : Scope} {act : Store.Action α} (h : Confined R P act) :
    Confined R P (Store.withScope scope act) := by
  unfold Store.withScope
  split
  · exact h
  · exact throw _

end Confined

/-- What a confined action does to a world, whether or not it breaks off. -/
theorem Confined.carryOut [IsPreorder Stores R] (around : Surroundings) {act : ExceptT ε Plan α}
    (h : Confined R P act) (w : World) :
    R w.stores (carryOut around act w).2.stores ∧
      ∃ sent, (Newswire.carryOut around act w).2.sent = w.sent ++ sent ∧ ∀ s ∈ sent, P s :=
  Plan.Confined.run around h w

/-- The action changes the stores as `R` allows and sends nothing. -/
abbrev Silent (R : Stores → Stores → Prop) (act : ExceptT ε Plan α) : Prop :=
  Confined R (fun _ => False) act

theorem Silent.carryOut [IsPreorder Stores R] (around : Surroundings) {act : ExceptT ε Plan α}
    (h : Silent R act) (w : World) :
    R w.stores (carryOut around act w).2.stores ∧
      (Newswire.carryOut around act w).2.sent = w.sent := by
  obtain ⟨hr, sent, hs, hn⟩ := Confined.carryOut around h w
  obtain rfl : sent = [] := List.eq_nil_iff_forall_not_mem.mpr hn
  exact ⟨hr, by simpa using hs⟩

end Confined

/-- Something befalls one of the calls that might be made. -/
def Surroundings.Disturbed (around : Surroundings) : Prop :=
  ∃ n kind, around.conditions n kind ≠ none

section Asks

variable {α β : Type}

/-- The action asks for a value of the stores. It gives that value unless something befalls one of
its calls, and leaves all as it was. -/
def Asks (act : Store.Action α) (f : Stores → α) : Prop :=
  ∀ around w, ∃ n,
    carryOut around act w = (.ok (f w.stores), { w with calls := n }) ∨
      around.Disturbed ∧
        ∃ o, carryOut around act w = (.error (.outage o), { w with calls := n })

namespace Asks

theorem pure (a : α) : Asks (pure a) fun _ => a := fun _ w => ⟨w.calls, Or.inl rfl⟩

theorem ask (kind : Store.Kind) (f : Stores → α) : Asks (Store.ask kind f) f := by
  intro around w
  refine ⟨w.calls + 1, ?_⟩
  rw [Store.ask, carryOut_call]
  cases h : around.conditions w.calls kind with
  | none => exact Or.inl rfl
  | some o => exact Or.inr ⟨⟨w.calls, kind, by simp [h]⟩, o, rfl⟩

theorem bind {x : Store.Action α} {f : Stores → α} {g : α → Store.Action β}
    {k : α → Stores → β} (hx : Asks x f) (hg : ∀ a, Asks (g a) (k a)) :
    Asks (x >>= g) fun s => k (f s) s := by
  intro around w
  obtain ⟨n, hn | ⟨hc, o, hn⟩⟩ := hx around w
  · obtain ⟨m, hm⟩ := hg (f w.stores) around { w with calls := n }
    exact ⟨m, by rw [carryOut_bind, hn]; exact hm⟩
  · exact ⟨n, Or.inr ⟨hc, o, by rw [carryOut_bind, hn]⟩⟩

theorem map {x : Store.Action α} {f : Stores → α} (k : α → β) (hx : Asks x f) :
    Asks (k <$> x) fun s => k (f s) := by
  rw [map_eq_pure_bind]
  exact hx.bind fun a => pure (k a)

theorem ite {c : Prop} [Decidable c] {x y : Store.Action α} {f g : Stores → α} (hx : Asks x f)
    (hy : Asks y g) : Asks (if c then x else y) fun s => if c then f s else g s := by
  split
  · exact hx
  · exact hy

theorem congr {act : Store.Action α} {f g : Stores → α} (h : Asks act f) (hfg : ∀ s, f s = g s) :
    Asks act g := funext hfg ▸ h

/-- A step of a run that asks gives its value, or an error where something befalls a call, and
leaves all as it was. -/
theorem store {act : Store.Action α} {f : Stores → α} (h : Asks act f) (step : String)
    (around : Surroundings) (w : World) :
    ∃ n, carryOut around (Run.store step act) w = (.ok (f w.stores), { w with calls := n }) ∨
      around.Disturbed ∧
        ∃ err, carryOut around (Run.store step act) w = (.error err, { w with calls := n }) := by
  obtain ⟨n, hn | ⟨hd, o, hn⟩⟩ := h around w
  · exact ⟨n, Or.inl (by rw [carryOut_store, hn]; rfl)⟩
  · exact ⟨n, Or.inr ⟨hd, _, by rw [carryOut_store, hn]; rfl⟩⟩

end Asks

end Asks

/-- The two stores look the same in the view `f`. -/
def Stores.Keeps {β : Type} (f : Stores → β) (s t : Stores) : Prop := f s = f t

instance {β : Type} (f : Stores → β) : IsPreorder Stores (Stores.Keeps f) where
  refl _ := rfl
  trans _ _ _ := Eq.trans

end Newswire
