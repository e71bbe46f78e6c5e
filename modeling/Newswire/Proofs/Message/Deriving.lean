import Mathlib.Data.List.Basic
import Newswire.Message.Derivation

/-!
# Derivations one after the other

A derivation changes its own field alone, and reads its source as the derivations before it have
left it. Two neighbours with different names can therefore change places, unless one of them reads
the field of the other.
-/

namespace Newswire

namespace Fields

variable {fields : Fields} {name other text : String}

theorem value_insert_of_ne (h : name ≠ other) (text : String) :
    (fields.insert name text).value other = fields.value other := by
  rw [value, get?_insert, if_neg h, value]

/-- The order in which two fields are put in their places does not matter. -/
theorem insert_comm (h : name ≠ other) (text more : String) :
    (fields.insert name text).insert other more = (fields.insert other more).insert name text := by
  apply ext_get?
  intro field
  rw [get?_insert, get?_insert, get?_insert, get?_insert]
  by_cases hname : name = field
  · rw [if_pos hname, if_neg fun hother => h (hname.trans hother.symm), if_pos hname]
  · rw [if_neg hname, if_neg hname]

end Fields

namespace Message.Derivation

variable {fields earlier resolved : Fields} {ds before after : List Derivation} {d a b : Derivation}
  {text : String} {failure : Failure}

theorem field_injective {a b : Derivation} (h : a.field = b.field) : a.name = b.name :=
  String.append_right_inj _ |>.mp h

section AddAll

theorem addAll_cons_of_ok (h : d.made (fields.value d.source) = .ok text) (ds : List Derivation) :
    addAll fields (d :: ds) = addAll (fields.insert d.field text) ds := by
  rw [addAll, List.foldlM_cons, addTo, result, h]
  rfl

theorem addAll_cons_of_error (h : d.made (fields.value d.source) = .error failure)
    (ds : List Derivation) : addAll fields (d :: ds) = .error failure := by
  rw [addAll, List.foldlM_cons, addTo, result, h]
  rfl

theorem addAll_append_of_ok (h : addAll fields before = .ok earlier) (after : List Derivation) :
    addAll fields (before ++ after) = addAll earlier after := by
  rw [addAll, List.foldlM_append, ← addAll, h]
  rfl

theorem addAll_append_of_error (h : addAll fields before = .error failure)
    (after : List Derivation) : addAll fields (before ++ after) = .error failure := by
  rw [addAll, List.foldlM_append, ← addAll, h]
  rfl

/-- Derivations that are all added are added one after the other. -/
theorem exists_of_addAll_append (h : addAll fields (before ++ after) = .ok resolved) :
    ∃ earlier, addAll fields before = .ok earlier ∧ addAll earlier after = .ok resolved := by
  cases hbefore : addAll fields before with
  | ok earlier => exact ⟨earlier, rfl, addAll_append_of_ok hbefore after ▸ h⟩
  | error failure =>
      rw [addAll_append_of_error hbefore] at h
      cases h

theorem exists_of_addAll_cons (h : addAll fields (d :: ds) = .ok resolved) :
    ∃ text, d.made (fields.value d.source) = .ok text ∧
      addAll (fields.insert d.field text) ds = .ok resolved := by
  cases hmade : d.made (fields.value d.source) with
  | ok text => exact ⟨text, rfl, addAll_cons_of_ok hmade ds ▸ h⟩
  | error failure =>
      rw [addAll_cons_of_error hmade] at h
      cases h

/-- A field that no derivation is stored under is kept. -/
theorem get?_addAll_of_ne {name : String} (h : addAll fields ds = .ok resolved)
    (hname : ∀ d ∈ ds, d.field ≠ name) : resolved.get? name = fields.get? name := by
  induction ds generalizing fields with
  | nil => rw [Except.ok.inj h]
  | cons d rest ih =>
      obtain ⟨text, -, hrest⟩ := exists_of_addAll_cons h
      obtain ⟨hd, hname⟩ := List.forall_mem_cons.mp hname
      rw [ih hrest hname, Fields.get?_insert, if_neg hd]

/-- The first derivation that fails is the one whose failure is told. -/
theorem addAll_eq_error_iff :
    addAll fields ds = .error failure ↔
      ∃ before d after earlier, ds = before ++ d :: after ∧ addAll fields before = .ok earlier ∧
        d.made (earlier.value d.source) = .error failure := by
  constructor
  · intro h
    induction ds generalizing fields with
    | nil => cases h
    | cons d rest ih =>
        cases hmade : d.made (fields.value d.source) with
        | error failure' =>
            rw [addAll_cons_of_error hmade] at h
            obtain rfl := Except.error.inj h
            exact ⟨[], d, rest, fields, rfl, rfl, hmade⟩
        | ok text =>
            rw [addAll_cons_of_ok hmade] at h
            obtain ⟨before, e, after, earlier, rfl, hbefore, he⟩ := ih h
            exact ⟨d :: before, e, after, earlier, rfl, addAll_cons_of_ok hmade before ▸ hbefore, he⟩
  · rintro ⟨before, d, after, earlier, rfl, hbefore, hd⟩
    rw [addAll_append_of_ok hbefore, addAll_cons_of_error hd]

end AddAll

/-- What derivations come to. Each has read its source as those before it have left it, and its
field holds what it has made of that, unless a later one is stored under the same name. -/
structure Derived (fields : Fields) (ds : List Derivation) (resolved : Fields) : Prop where
  kept (name : String) (h : ∀ d ∈ ds, d.field ≠ name) : resolved.get? name = fields.get? name
  stored (before : List Derivation) (d : Derivation) (after : List Derivation)
    (h : ds = before ++ d :: after) :
    ∃ earlier text, addAll fields before = .ok earlier ∧
      d.made (earlier.value d.source) = .ok text ∧
      ((∀ e ∈ after, e.field ≠ d.field) → resolved.get? d.field = some text)

namespace Derived

theorem of_addAll (h : addAll fields ds = .ok resolved) : Derived fields ds resolved where
  kept _ hname := get?_addAll_of_ne h hname
  stored before d after hds := by
    subst hds
    obtain ⟨earlier, hbefore, hrest⟩ := exists_of_addAll_append h
    obtain ⟨text, hmade, hafter⟩ := exists_of_addAll_cons hrest
    refine ⟨earlier, text, hbefore, hmade, fun hlast => ?_⟩
    rw [get?_addAll_of_ne hafter hlast, Fields.get?_insert, if_pos rfl]

/-- If every derivation has something to store, they can all be added. -/
theorem exists_addAll (h : Derived fields ds resolved) : ∃ r, addAll fields ds = .ok r := by
  rcases List.eq_nil_or_concat ds with rfl | ⟨init, d, rfl⟩
  · exact ⟨fields, rfl⟩
  · rw [List.concat_eq_append] at h ⊢
    obtain ⟨earlier, text, hinit, hmade, -⟩ := h.stored init d [] rfl
    exact ⟨_, (addAll_append_of_ok hinit [d]).trans (addAll_cons_of_ok hmade [])⟩

/-- The last derivation with a field of that name, if there is one. -/
theorem exists_last {name : String} (h : ∃ d ∈ ds, d.field = name) :
    ∃ before d after, ds = before ++ d :: after ∧ d.field = name ∧ ∀ e ∈ after, e.field ≠ name := by
  induction ds with
  | nil => simp at h
  | cons d rest ih =>
      by_cases hrest : ∃ e ∈ rest, e.field = name
      · obtain ⟨before, e, after, rfl, he, hafter⟩ := ih hrest
        exact ⟨d :: before, e, after, rfl, he, hafter⟩
      · obtain ⟨e, he, hname⟩ := h
        rcases List.mem_cons.mp he with rfl | he
        · exact ⟨[], e, rest, rfl, hname, fun x hx hn => hrest ⟨x, hx, hn⟩⟩
        · exact absurd ⟨e, he, hname⟩ hrest

theorem unique {r : Fields} (h : Derived fields ds resolved) (hr : Derived fields ds r) :
    resolved = r := by
  apply Fields.ext_get?
  intro name
  by_cases hname : ∃ d ∈ ds, d.field = name
  · obtain ⟨before, d, after, rfl, rfl, hafter⟩ := exists_last hname
    obtain ⟨earlier, text, hbefore, hmade, hstored⟩ := h.stored before d after rfl
    obtain ⟨earlier', text', hbefore', hmade', hstored'⟩ := hr.stored before d after rfl
    obtain rfl := Except.ok.inj (hbefore.symm.trans hbefore')
    obtain rfl := Except.ok.inj (hmade.symm.trans hmade')
    rw [hstored hafter, hstored' hafter]
  · have hne : ∀ d ∈ ds, d.field ≠ name := fun d hd hn => hname ⟨d, hd, hn⟩
    rw [h.kept name hne, hr.kept name hne]

end Derived

theorem addAll_eq_ok_iff : addAll fields ds = .ok resolved ↔ Derived fields ds resolved := by
  constructor
  · exact Derived.of_addAll
  · intro h
    obtain ⟨r, hr⟩ := h.exists_addAll
    rw [hr, h.unique (.of_addAll hr)]

/-- Both come to the same fields, or both fail. -/
def Agree (x y : Except Failure Fields) : Prop :=
  (∃ resolved, x = .ok resolved ∧ y = .ok resolved) ∨
    ∃ failure failure', x = .error failure ∧ y = .error failure'

theorem agree_refl (x : Except Failure Fields) : Agree x x := by
  cases x with
  | ok resolved => exact Or.inl ⟨resolved, rfl, rfl⟩
  | error failure => exact Or.inr ⟨failure, failure, rfl, rfl⟩

/-- Two derivations of which neither reads the field of the other. -/
structure Independent (a b : Derivation) : Prop where
  name : a.name ≠ b.name
  left : a.source ≠ b.field
  right : b.source ≠ a.field

instance (a b : Derivation) : Decidable (Independent a b) :=
  decidable_of_iff (a.name ≠ b.name ∧ a.source ≠ b.field ∧ b.source ≠ a.field)
    ⟨fun h => ⟨h.1, h.2.1, h.2.2⟩, fun h => ⟨h.name, h.left, h.right⟩⟩

namespace Independent

theorem field_ne (h : Independent a b) : a.field ≠ b.field := fun hf => h.name (field_injective hf)

theorem addAll_front (h : Independent a b) (fields : Fields) (after : List Derivation) :
    Agree (addAll fields (a :: b :: after)) (addAll fields (b :: a :: after)) := by
  have hright (text : String) :
      (fields.insert a.field text).value b.source = fields.value b.source :=
    Fields.value_insert_of_ne h.right.symm text
  have hleft (text : String) :
      (fields.insert b.field text).value a.source = fields.value a.source :=
    Fields.value_insert_of_ne h.left.symm text
  cases ha : a.made (fields.value a.source) with
  | error failure =>
      rw [addAll_cons_of_error ha]
      refine Or.inr ⟨failure, ?_⟩
      cases hb : b.made (fields.value b.source) with
      | error failure' => exact ⟨failure', rfl, addAll_cons_of_error hb _⟩
      | ok text =>
          rw [addAll_cons_of_ok hb]
          exact ⟨failure, rfl, addAll_cons_of_error ((congrArg _ (hleft text)).trans ha) _⟩
  | ok text =>
      rw [addAll_cons_of_ok ha]
      cases hb : b.made (fields.value b.source) with
      | error failure =>
          rw [addAll_cons_of_error hb, addAll_cons_of_error ((congrArg _ (hright text)).trans hb)]
          exact agree_refl _
      | ok more =>
          rw [addAll_cons_of_ok hb, addAll_cons_of_ok ((congrArg _ (hright text)).trans hb),
            addAll_cons_of_ok ((congrArg _ (hleft more)).trans ha), Fields.insert_comm h.field_ne]
          exact agree_refl _

theorem addAll_exchange (h : Independent a b) (fields : Fields) (before after : List Derivation) :
    Agree (addAll fields (before ++ a :: b :: after)) (addAll fields (before ++ b :: a :: after)) := by
  cases hbefore : addAll fields before with
  | ok earlier =>
      rw [addAll_append_of_ok hbefore, addAll_append_of_ok hbefore]
      exact h.addAll_front earlier after
  | error failure =>
      rw [addAll_append_of_error hbefore, addAll_append_of_error hbefore]
      exact agree_refl _

end Independent

/-- Derivations change the fields that they are stored under and no others, each of them reads what
those before it have left, and the first to fail is told. Independent neighbours can change
places. -/
theorem derivations_in_order (fields : Fields) (ds : List Derivation) :
    (∀ resolved, addAll fields ds = .ok resolved ↔ Derived fields ds resolved) ∧
    (∀ failure, addAll fields ds = .error failure ↔
      ∃ before d after earlier, ds = before ++ d :: after ∧ addAll fields before = .ok earlier ∧
        d.made (earlier.value d.source) = .error failure) ∧
    ∀ before a b after, ds = before ++ a :: b :: after → Independent a b →
      Agree (addAll fields ds) (addAll fields (before ++ b :: a :: after)) := by
  refine ⟨fun _ => addAll_eq_ok_iff, fun _ => addAll_eq_error_iff, ?_⟩
  rintro before a b after rfl h
  exact h.addAll_exchange fields before after

/-- A title, and a field that looks like a derived one. -/
def titled : Fields := .ofList [("custom::loud", "Once"), ("title", "Ab c")]

def loud : Derivation := { name := "loud", source := "title", steps := [.upperCase] }

def linked : Derivation := { name := "linked", source := "custom::loud", steps := [.percentEncode] }

def soft : Derivation := { name := "soft", source := "title", steps := [.lowerCase] }

/-- The second derivation reads what the first has stored over the field of the article, whether the
third comes before or after it. -/
theorem linked_soft_in_order :
    Independent linked soft ∧
      addAll titled [loud, linked, soft] = .ok (.ofList [("custom::linked", "AB%20C"),
        ("custom::loud", "AB C"), ("custom::soft", "ab c"), ("title", "Ab c")]) ∧
      Agree (addAll titled [loud, linked, soft]) (addAll titled [loud, soft, linked]) := by
  have hindependent : Independent linked soft := by decide
  refine ⟨hindependent, by decide +kernel, ?_⟩
  exact (derivations_in_order titled _).2.2 [loud] linked soft [] rfl hindependent

end Message.Derivation

end Newswire
