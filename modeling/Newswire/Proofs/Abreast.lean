import Newswire.Proofs.Execution

/-!
# Two worlds side by side

Two actions are carried out, each in a world of its own. As long as the same befalls their calls and
the same is answered to their messages, they go the same way: they make as many calls, send the same
messages, and come to answers and stores that are related as their calls relate them.
-/

namespace Newswire

variable {ε α β : Type} {B : Sending → Prop}

/-- From here on the same befalls the calls in both worlds, and the same is answered to the messages
that `B` holds of, as long as no others are sent. -/
structure Abreast (B : Sending → Prop) (around around' : Surroundings) (w w' : World) : Prop where
  conditions : ∀ n, around.conditions (w.calls + n) = around'.conditions (w'.calls + n)
  receiver : ∀ ms m, (∀ x ∈ ms, B x) → B m →
    around.receiver (w.sent ++ ms) m = around'.receiver (w'.sent ++ ms) m

/-- Both worlds have gone on by as many calls and by the same messages, all of which `B` holds
of. -/
structure Advances (B : Sending → Prop) (w w' v v' : World) : Prop where
  calls : ∃ n, v.calls = w.calls + n ∧ v'.calls = w'.calls + n
  sent : ∃ ms, (∀ x ∈ ms, B x) ∧ v.sent = w.sent ++ ms ∧ v'.sent = w'.sent ++ ms

namespace Advances

variable {w w' v v' u u' : World}

theorem refl (B : Sending → Prop) (w w' : World) : Advances B w w' w w' := by
  constructor
  · exact ⟨0, rfl, rfl⟩
  · exact ⟨[], by simp, by simp, by simp⟩

theorem trans (h : Advances B w w' v v') (h' : Advances B v v' u u') :
    Advances B w w' u u' := by
  obtain ⟨n, hv, hv'⟩ := h.calls
  obtain ⟨m, hu, hu'⟩ := h'.calls
  obtain ⟨ms, hB, hs, hs'⟩ := h.sent
  obtain ⟨ns, hB', ht, ht'⟩ := h'.sent
  constructor
  · exact ⟨n + m, by rw [hu, hv, Nat.add_assoc], by rw [hu', hv', Nat.add_assoc]⟩
  · refine ⟨ms ++ ns, fun x hx => ?_, by rw [ht, hs, List.append_assoc],
      by rw [ht', hs', List.append_assoc]⟩
    exact (List.mem_append.mp hx).elim (hB x) (hB' x)

end Advances

theorem Abreast.advance {around around' : Surroundings} {w w' v v' : World}
    (h : Abreast B around around' w w') (ha : Advances B w w' v v') :
    Abreast B around around' v v' := by
  obtain ⟨n, hv, hv'⟩ := ha.calls
  obtain ⟨ns, hB, hs, hs'⟩ := ha.sent
  constructor
  · intro m
    rw [hv, hv', Nat.add_assoc, Nat.add_assoc]
    exact h.conditions (n + m)
  · intro ms m hms hm
    rw [hs, hs', List.append_assoc, List.append_assoc]
    refine h.receiver (ns ++ ms) m (fun x hx => ?_) hm
    exact (List.mem_append.mp hx).elim (hB x) (hms x)

/-- Both came to an answer, and `after` relates the answers and the stores; or both broke off with
the same error, and `broken` relates the stores. -/
def EndAlike (after : α → β → Stores → Stores → Prop) (broken : Stores → Stores → Prop) :
    Except ε α × World → Except ε β × World → Prop
  | (.ok a, v), (.ok b, v') => after a b v.stores v'.stores
  | (.error e, v), (.error e', v') => e = e' ∧ broken v.stores v'.stores
  | _, _ => False

section EndAlike

variable {R : Stores → Stores → Prop} {x : Except ε α × World} {y : Except ε β × World}

theorem EndAlike.stores (h : EndAlike (fun _ _ => R) R x y) : R x.2.stores y.2.stores := by
  rcases x with ⟨err | a, v⟩ <;> rcases y with ⟨err' | b, v'⟩
  · exact h.2
  · exact h.elim
  · exact h.elim
  · exact h

theorem endAlike_same_iff {x y : Except ε α × World} :
    EndAlike (fun a b st tt => a = b ∧ R st tt) R x y ↔
      x.1 = y.1 ∧ R x.2.stores y.2.stores := by
  rcases x with ⟨err | a, v⟩ <;> rcases y with ⟨err' | b, v'⟩ <;> simp [EndAlike]

end EndAlike

/-- Two actions go the same way in worlds that are abreast and whose stores `before` relates. -/
def Matches (B : Sending → Prop) (before : Stores → Stores → Prop) (act : ExceptT ε Plan α)
    (act' : ExceptT ε Plan β) (after : α → β → Stores → Stores → Prop)
    (broken : Stores → Stores → Prop) : Prop :=
  ∀ ⦃around around' w w'⦄, Abreast B around around' w w' → before w.stores w'.stores →
    Advances B w w' (carryOut around act w).2 (carryOut around' act' w').2 ∧
      EndAlike after broken (carryOut around act w) (carryOut around' act' w')

/-- An action gives the same answer in two worlds whose stores `R` relates, and `R` relates the
stores afterwards, also where it breaks off. -/
abbrev Same (B : Sending → Prop) (R : Stores → Stores → Prop) (act : ExceptT ε Plan α) : Prop :=
  Matches B R act act (fun a b st tt => a = b ∧ R st tt) R

namespace Matches

variable {α' β' : Type} {before broken P R : Stores → Stores → Prop}

theorem mono {act : ExceptT ε Plan α} {act' : ExceptT ε Plan β}
    {after : α → β → Stores → Stores → Prop} (h : Matches B before act act' after broken)
    (hP : ∀ st tt, P st tt → before st tt) : Matches B P act act' after broken :=
  fun _ _ _ _ habreast hb => h habreast (hP _ _ hb)

theorem pure {a : α} {b : β} {after : α → β → Stores → Stores → Prop}
    (h : ∀ st tt, before st tt → after a b st tt) :
    Matches B before (pure a : ExceptT ε Plan α) (pure b) after broken :=
  fun _ _ w w' _ hb => ⟨Advances.refl B w w', h _ _ hb⟩

theorem throw (e : ε) {after : α → β → Stores → Stores → Prop}
    (h : ∀ st tt, before st tt → broken st tt) :
    Matches B before (throw e : ExceptT ε Plan α) (throw e : ExceptT ε Plan β) after broken :=
  fun _ _ w w' _ hb => ⟨Advances.refl B w w', rfl, h _ _ hb⟩

/-- What comes next goes the same way if it does so from all answers that may be given. -/
theorem bind {x : ExceptT ε Plan α} {x' : ExceptT ε Plan α'} {f : α → ExceptT ε Plan β}
    {f' : α' → ExceptT ε Plan β'} {middle : α → α' → Stores → Stores → Prop}
    {after : β → β' → Stores → Stores → Prop} (hx : Matches B before x x' middle broken)
    (hf : ∀ a b, Matches B (middle a b) (f a) (f' b) after broken) :
    Matches B before (x >>= f) (x' >>= f') after broken := by
  intro around around' w w' habreast hb
  obtain ⟨hadvance, hend⟩ := hx habreast hb
  rw [carryOut_bind, carryOut_bind]
  rcases hc : carryOut around x w with ⟨err | a, v⟩ <;>
    rcases hc' : carryOut around' x' w' with ⟨err' | b, v'⟩ <;> rw [hc, hc'] at hadvance hend
  · exact ⟨hadvance, hend⟩
  · exact hend.elim
  · exact hend.elim
  · obtain ⟨hadvance', hend'⟩ := hf a b (habreast.advance hadvance) hend
    exact ⟨hadvance.trans hadvance', hend'⟩

/-- A call goes the same way where it is answered as `after` says. -/
theorem call {kind : Store.Kind} {effect : Stores → α × Stores} {effect' : Stores → β × Stores}
    {after : α → β → Stores → Stores → Prop}
    (h : ∀ st tt, before st tt →
      after (effect st).1 (effect' tt).1 (effect st).2 (effect' tt).2)
    (hb : ∀ st tt, before st tt → broken st tt) :
    Matches B before (Store.call kind effect) (Store.call kind effect') after broken := by
  intro around around' w w' habreast hbefore
  have hc : around.conditions w.calls kind = around'.conditions w'.calls kind :=
    congrFun (habreast.conditions 0) kind
  rw [carryOut_call, carryOut_call, ← hc]
  have hsent : ∃ ms, (∀ x ∈ ms, B x) ∧ w.sent = w.sent ++ ms ∧ w'.sent = w'.sent ++ ms :=
    ⟨[], by simp, by simp, by simp⟩
  cases around.conditions w.calls kind with
  | some o => exact ⟨⟨⟨1, rfl, rfl⟩, hsent⟩, rfl, hb _ _ hbefore⟩
  | none => exact ⟨⟨⟨1, rfl, rfl⟩, hsent⟩, h _ _ hbefore⟩

theorem store {act : Store.Action α} {act' : Store.Action β} (step : String)
    {after : α → β → Stores → Stores → Prop} (h : Matches B before act act' after broken) :
    Matches B before (Run.store step act) (Run.store step act') after broken := by
  intro around around' w w' habreast hb
  obtain ⟨hadvance, hend⟩ := h habreast hb
  rw [carryOut_store, carryOut_store]
  rcases hc : carryOut around act w with ⟨err | a, v⟩ <;>
    rcases hc' : carryOut around' act' w' with ⟨err' | b, v'⟩ <;> rw [hc, hc'] at hadvance hend
  · exact ⟨hadvance, congrArg (·.error step) hend.1, hend.2⟩
  · exact hend.elim
  · exact hend.elim
  · exact ⟨hadvance, hend⟩

theorem withScope {scope : Scope} {act : Store.Action α} {act' : Store.Action β}
    {after : α → β → Stores → Stores → Prop} (h : Matches B before act act' after broken)
    (hb : ∀ st tt, before st tt → broken st tt) :
    Matches B before (Store.withScope scope act) (Store.withScope scope act') after broken := by
  unfold Store.withScope
  split
  · exact h
  · exact throw _ hb

end Matches

namespace Same

variable {R : Stores → Stores → Prop}

theorem pure (a : α) : Same B R (pure a : ExceptT ε Plan α) := Matches.pure fun _ _ h => ⟨rfl, h⟩

theorem throw (e : ε) : Same B R (throw e : ExceptT ε Plan α) := Matches.throw e fun _ _ h => h

theorem bind {x : ExceptT ε Plan α} {f : α → ExceptT ε Plan β} (hx : Same B R x)
    (hf : ∀ a, Same B R (f a)) : Same B R (x >>= f) := by
  apply Matches.bind hx
  intro a b around around' w w' habreast hb
  obtain ⟨rfl, hR⟩ := hb
  exact hf a habreast hR

/-- The answer of the first part does not matter to what comes next. -/
theorem bind_unit {x : ExceptT ε Plan α} {y : ExceptT ε Plan β}
    (hx : Matches B R x x (fun _ _ => R) R) (hy : Same B R y) : Same B R (x >>= fun _ => y) :=
  Matches.bind hx fun _ _ => hy

theorem map (f : α → β) {x : ExceptT ε Plan α} (hx : Same B R x) : Same B R (f <$> x) := by
  rw [map_eq_pure_bind]
  exact hx.bind fun a => pure (f a)

theorem ite {c : Prop} [Decidable c] {x y : ExceptT ε Plan α} (hx : Same B R x)
    (hy : Same B R y) : Same B R (if c then x else y) := by
  split
  · exact hx
  · exact hy

theorem call {kind : Store.Kind} {effect : Stores → α × Stores}
    (h : ∀ st tt, R st tt → (effect st).1 = (effect tt).1 ∧ R (effect st).2 (effect tt).2) :
    Same B R (Store.call kind effect) := Matches.call h fun _ _ h => h

theorem ask {kind : Store.Kind} {f : Stores → α} (h : ∀ st tt, R st tt → f st = f tt) :
    Same B R (Store.ask kind f) := call fun st tt hR => ⟨h st tt hR, hR⟩

theorem store {act : Store.Action α} (step : String) (h : Same B R act) :
    Same B R (Run.store step act) := Matches.store step h

theorem withScope {scope : Scope} {act : Store.Action α} (h : Same B R act) :
    Same B R (Store.withScope scope act) := Matches.withScope h fun _ _ h => h

/-- What is done at the end keeps the stores related, and its answer does not matter. -/
theorem lastly {act : ExceptT ε Plan α} {last : ExceptT ε Plan β} (hact : Same B R act)
    (hlast : Matches B R last last (fun _ _ => R) R) :
    Same B R (.mk do
      let result ← act.run
      let _ ← last.run
      return result) := by
  intro around around' w w' habreast hR
  obtain ⟨hadvance, hend⟩ := hact habreast hR
  obtain ⟨hanswer, hstores⟩ := endAlike_same_iff.mp hend
  obtain ⟨hadvance', hend'⟩ := hlast (habreast.advance hadvance) hstores
  rw [carryOut_lastly, carryOut_lastly]
  exact ⟨hadvance.trans hadvance', endAlike_same_iff.mpr ⟨hanswer, hend'.stores⟩⟩

end Same

end Newswire
