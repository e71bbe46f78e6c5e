import Newswire.Proofs.Execution

/-!
# Calls without an answer

The calls of a plan that were not answered are listed by their kinds. A brittle action makes no call
after one of these: it comes to its end exactly when every call was answered, unless it gives up of
its own accord.
-/

namespace Newswire

variable {ε α β : Type}

namespace Plan

/-- The kinds of the calls that are not answered, in their order. -/
def unanswered (around : Surroundings) : Plan α → World → List Store.Kind
  | done _, _ => []
  | call c next, w =>
    let (answer, w') := w.answer around c
    (if around.conditions w.calls c.kind = none then [] else [c.kind]) ++
      (next answer).unanswered around w'
  | send s next, w =>
    let (answer, w') := w.receive around.receiver s
    (next answer).unanswered around w'

theorem unanswered_bind (around : Surroundings) (p : Plan α) (f : α → Plan β) (w : World) :
    (p >>= f).unanswered around w =
      p.unanswered around w ++ (f (p.run around w).1).unanswered around (p.run around w).2 := by
  change (p.bind f).unanswered around w = _
  induction p generalizing w with
  | done a => rfl
  | call c next ih => simp [Plan.bind, unanswered, run, ih]
  | send s next ih => simp [Plan.bind, unanswered, run, ih]

end Plan

section Unanswered

variable (around : Surroundings)

/-- The calls of an action that are not answered. -/
def unanswered (act : ExceptT ε Plan α) (w : World) : List Store.Kind :=
  act.run.unanswered around w

@[simp] theorem unanswered_pure (a : α) (w : World) :
    unanswered around (pure a : ExceptT ε Plan α) w = [] := rfl

theorem unanswered_bind (x : ExceptT ε Plan α) (f : α → ExceptT ε Plan β) (w : World) :
    unanswered around (x >>= f) w =
      unanswered around x w ++
        match carryOut around x w with
        | (.ok a, w') => unanswered around (f a) w'
        | (.error _, _) => [] := by
  simp only [unanswered, carryOut, ExceptT.run_bind, Plan.unanswered_bind]
  rcases x.run.run around w with ⟨answer, w'⟩
  cases answer <;> rfl

@[simp] theorem unanswered_map (f : α → β) (x : ExceptT ε Plan α) (w : World) :
    unanswered around (f <$> x) w = unanswered around x w := by
  rw [map_eq_pure_bind, unanswered_bind]
  rcases carryOut around x w with ⟨a | a, v⟩ <;> simp

@[simp] theorem unanswered_lift (p : Plan α) (w : World) :
    unanswered around (liftM p : ExceptT ε Plan α) w = p.unanswered around w := by
  have hb := Plan.unanswered_bind around p (fun a => (.done (.ok a) : Plan (Except ε α))) w
  exact hb.trans (List.append_nil _)

@[simp] theorem unanswered_store (step : String) (act : Store.Action α) (w : World) :
    unanswered around (Run.store step act) w = unanswered around act w := by
  change (Except.mapError _ <$> act.run).unanswered around w = _
  rw [map_eq_pure_bind, Plan.unanswered_bind]
  exact List.append_nil _

theorem unanswered_call (kind : Store.Kind) (effect : Stores → α × Stores) (w : World) :
    unanswered around (Store.call kind effect) w =
      if around.conditions w.calls kind = none then [] else [kind] :=
  List.append_nil _

/-- Something befalls a call that is not answered. -/
theorem Plan.disturbed_of_unanswered {around : Surroundings} {p : Plan α} {w : World}
    (h : p.unanswered around w ≠ []) : around.Disturbed := by
  induction p generalizing w with
  | done a => exact absurd rfl h
  | call c next ih =>
      by_cases hc : around.conditions w.calls c.kind = none
      · rw [unanswered, if_pos hc] at h
        exact ih _ h
      · exact ⟨w.calls, c.kind, hc⟩
  | send s next ih => exact ih _ h

theorem disturbed_of_unanswered {around : Surroundings} {act : ExceptT ε Plan α} {w : World}
    (h : unanswered around act w ≠ []) : around.Disturbed :=
  Plan.disturbed_of_unanswered h

end Unanswered

/-- The action comes to its end, with every call answered; or it breaks off at a call of a kind that
`K` holds of, or without one, where `B` holds. -/
def Brittle (K : Store.Kind → Prop) (B : Prop) (act : ExceptT ε Plan α) : Prop :=
  ∀ around w,
    (∃ a, (carryOut around act w).1 = .ok a) ∧ unanswered around act w = [] ∨
    (∃ err, (carryOut around act w).1 = .error err) ∧
      ((∃ kind, K kind ∧ unanswered around act w = [kind]) ∨ B ∧ unanswered around act w = [])

namespace Brittle

variable {K : Store.Kind → Prop} {B : Prop}

section Answer

variable {around : Surroundings} {act : ExceptT ε Plan α} {w : World} (h : Brittle K B act)

include h

theorem unanswered_of_ok {a : α} (ha : (carryOut around act w).1 = .ok a) :
    unanswered around act w = [] := by
  obtain ⟨-, hu⟩ | ⟨⟨err, he⟩, -⟩ := h around w
  · exact hu
  · cases he.symm.trans ha

theorem unanswered_of_error {err : ε} (he : (carryOut around act w).1 = .error err) :
    (∃ kind, K kind ∧ unanswered around act w = [kind]) ∨ B ∧ unanswered around act w = [] := by
  obtain ⟨⟨a, ha⟩, -⟩ | ⟨-, hu⟩ := h around w
  · cases ha.symm.trans he
  · exact hu

/-- Where nothing befalls any call, the action comes to its end. -/
theorem exists_ok (hB : ¬B) (hd : ¬around.Disturbed) : ∃ a, (carryOut around act w).1 = .ok a := by
  obtain ⟨ha, -⟩ | ⟨-, ⟨kind, -, hu⟩ | ⟨hb, -⟩⟩ := h around w
  · exact ha
  · have hne : unanswered around act w ≠ [] := by simp [hu]
    exact absurd (disturbed_of_unanswered hne) hd
  · exact absurd hb hB

end Answer

theorem pure (a : α) : Brittle K B (pure a : ExceptT ε Plan α) := fun _ _ => Or.inl ⟨⟨a, rfl⟩, rfl⟩

theorem throw (e : ε) (h : B) : Brittle K B (throw e : ExceptT ε Plan α) :=
  fun _ _ => Or.inr ⟨⟨e, rfl⟩, Or.inr ⟨h, rfl⟩⟩

theorem bind {x : ExceptT ε Plan α} {f : α → ExceptT ε Plan β} (hx : Brittle K B x)
    (hf : ∀ a, Brittle K B (f a)) : Brittle K B (x >>= f) := by
  intro around w
  rw [carryOut_bind, unanswered_bind]
  obtain ⟨⟨a, ha⟩, hu⟩ | ⟨⟨err, he⟩, hu⟩ := hx around w
  · rcases hc : carryOut around x w with ⟨answer, v⟩
    rw [hc] at ha
    obtain rfl : answer = .ok a := ha
    rw [hu]
    exact hf a around v
  · rcases hc : carryOut around x w with ⟨answer, v⟩
    rw [hc] at he
    obtain rfl : answer = .error err := he
    rw [List.append_nil]
    exact Or.inr ⟨⟨err, rfl⟩, hu⟩

theorem map (f : α → β) {x : ExceptT ε Plan α} (hx : Brittle K B x) : Brittle K B (f <$> x) := by
  rw [map_eq_pure_bind]
  exact hx.bind fun a => pure (f a)

theorem ite {c : Prop} [Decidable c] {x y : ExceptT ε Plan α} (hx : Brittle K B x)
    (hy : Brittle K B y) : Brittle K B (if c then x else y) := by
  split
  · exact hx
  · exact hy

theorem call {kind : Store.Kind} (h : K kind) (effect : Stores → α × Stores) :
    Brittle K B (Store.call kind effect) := by
  intro around w
  rw [carryOut_call, unanswered_call]
  cases around.conditions w.calls kind with
  | none => exact Or.inl ⟨⟨_, rfl⟩, rfl⟩
  | some o => exact Or.inr ⟨⟨_, rfl⟩, Or.inl ⟨kind, h, rfl⟩⟩

theorem store {act : Store.Action α} (step : String) (h : Brittle K B act) :
    Brittle K B (Run.store step act) := by
  intro around w
  rw [carryOut_store, unanswered_store]
  obtain ⟨⟨a, ha⟩, hu⟩ | ⟨⟨err, he⟩, hu⟩ := h around w
  · exact Or.inl ⟨⟨a, by rw [ha]; rfl⟩, hu⟩
  · exact Or.inr ⟨⟨err.error step, by rw [he]; rfl⟩, hu⟩

theorem lift {p : Plan α} (h : ∀ around w, p.unanswered around w = []) :
    Brittle K B (liftM p : ExceptT ε Plan α) := by
  intro around w
  rw [carryOut_lift, unanswered_lift]
  exact Or.inl ⟨⟨_, rfl⟩, h around w⟩

theorem withScope {scope : Scope} {act : Store.Action α} (h : Brittle K B act)
    (hb : scope.isValid = false → B) : Brittle K B (Store.withScope scope act) := by
  unfold Store.withScope
  split
  · exact h
  · next hv => exact throw _ (hb (by simpa using hv))

end Brittle

end Newswire
