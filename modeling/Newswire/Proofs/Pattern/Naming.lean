import Newswire.Pattern.Basic
import Newswire.Proofs.Character.Tables

/-!
# The names of groups

A pattern is read with the names of its groups so far at hand, and only where a group is opened is
one added. So every name has been spelled by the rules: it is not empty, no digit comes first, and
no brace stands in it.
-/

namespace Newswire.Pattern

namespace Reader

/-- The characters within ASCII that names are made of. -/
theorem cases_of_isNameChar {first : Bool} {c : Char} (hc : c.toNat < 0x80)
    (h : isNameChar first c = true) :
    c = '_' ∨ (0x41 ≤ c.toNat ∧ c.toNat ≤ 0x5a) ∨ (0x61 ≤ c.toNat ∧ c.toNat ≤ 0x7a) ∨
      (first = false ∧
        (c = '.' ∨ c = '[' ∨ c = ']' ∨ (0x30 ≤ c.toNat ∧ c.toNat ≤ 0x39))) := by
  simp only [isNameChar, Bool.or_eq_true, Bool.and_eq_true, Bool.not_eq_true', beq_iff_eq] at h
  rcases h with (h | h) | ⟨hfirst, ((h | h) | h) | h⟩
  · exact .inl h
  · have hletter := Character.letter_of_alphabetic hc (CharSet.holds_of_mem h)
    omega
  · exact .inr (.inr (.inr ⟨hfirst, .inl h⟩))
  · exact .inr (.inr (.inr ⟨hfirst, .inr (.inl h)⟩))
  · exact .inr (.inr (.inr ⟨hfirst, .inr (.inr (.inl h))⟩))
  · have hdigit := Character.digit_of_number hc (CharSet.holds_of_mem h)
    exact .inr (.inr (.inr ⟨hfirst, .inr (.inr (.inr hdigit))⟩))

end Reader

/-- The rules by which the name of a group is spelled. -/
structure IsGroupName (name : List Char) : Prop where
  nonempty : name ≠ []
  head : ∀ c ∈ name.head?, Reader.isNameChar true c = true
  all : ∀ c ∈ name, Reader.isNameChar false c = true

namespace IsGroupName

variable {name : List Char}

theorem close_not_mem (h : IsGroupName name) : '\x7d' ∉ name := fun hclose => by
  have hcases := Reader.cases_of_isNameChar (by decide) (h.all _ hclose)
  revert hcases
  decide

theorem not_digits (h : IsGroupName name) : ¬ ∀ d ∈ name, d.isDigit = true := fun hdigits => by
  obtain ⟨c, cs, rfl⟩ := List.exists_cons_of_ne_nil h.nonempty
  have hc : 0x30 ≤ c.toNat ∧ c.toNat ≤ 0x39 := by
    simpa [Char.isDigit, UInt32.le_iff_toNat_le] using hdigits c List.mem_cons_self
  rcases Reader.cases_of_isNameChar (by omega) (h.head c rfl) with rfl | hc' | hc' | ⟨hfirst, -⟩
  · exact absurd hc (by decide)
  · omega
  · omega
  · cases hfirst

end IsGroupName

namespace Reader

/-- All names are spelled by the rules. -/
def State.IsNamed (s : State) : Prop := ∀ e ∈ s.names, IsGroupName e.1.toList

/-- A step of reading leaves all names spelled by the rules. -/
def Keeps {α : Type} (x : Parse α) : Prop :=
  ∀ s a s', x s = some (a, s') → s.IsNamed → s'.IsNamed

section Keeping

variable {α β : Type}

theorem exists_of_bind {x : Parse α} {k : α → Parse β} {s : State} {r : β × State}
    (h : (x >>= k) s = some r) : ∃ a t, x s = some (a, t) ∧ k a t = some r := by
  obtain ⟨⟨a, t⟩, hx, hk⟩ := Option.bind_eq_some_iff.mp h
  exact ⟨a, t, hx, hk⟩

namespace Keeps

theorem pure (a : α) : Keeps (Pure.pure a : Parse α) := by
  intro s b s' h hs
  cases h
  exact hs

theorem failure : Keeps (Alternative.failure : Parse α) := by
  intro s a s' h
  cases h

theorem bind {x : Parse α} {k : α → Parse β} (hx : Keeps x) (hk : ∀ a, Keeps (k a)) :
    Keeps (x >>= k) := by
  intro s b s' h hs
  obtain ⟨a, t, hxs, hks⟩ := exists_of_bind h
  exact hk a t b s' hks (hx s a t hxs hs)

/-- The state that is looked at has its names spelled by the rules. -/
theorem get_bind {k : State → Parse β} (hk : ∀ s : State, s.IsNamed → Keeps (k s)) :
    Keeps (get >>= k) :=
  fun s b s' h hs => hk s hs s b s' h hs

theorem put {s : State} (hs : s.IsNamed) : Keeps (set s : Parse PUnit) := by
  intro t a t' h _
  cases h
  exact hs

theorem putRest {s : State} (hs : s.IsNamed) (rest : List Char) :
    Keeps (set { s with rest := rest } : Parse PUnit) := put hs

theorem change {f : State → State} (hf : ∀ s : State, s.IsNamed → (f s).IsNamed) :
    Keeps (modify f : Parse PUnit) := by
  intro s a s' h hs
  cases h
  exact hf s hs

theorem ite {c : Prop} [Decidable c] {x y : Parse α} (hx : Keeps x) (hy : Keeps y) :
    Keeps (if c then x else y) := by
  split
  · exact hx
  · exact hy

/-- What is done unless a condition refuses it. -/
theorem unlessRefused {c : Prop} [Decidable c] {x : Parse α} (hx : Keeps x) :
    Keeps (if c then Alternative.failure >>= fun _ : Unit => x else x) :=
  ite (failure.bind fun _ => hx) hx

theorem forIn {γ σ : Type} {f : γ → σ → Parse (ForInStep σ)} {xs : List γ} {init : σ}
    (hf : ∀ x b, Keeps (f x b)) : Keeps (ForIn.forIn xs init f) := by
  induction xs generalizing init with
  | nil => exact pure init
  | cons x xs ih =>
      rw [List.forIn_cons]
      refine (hf x init).bind fun step => ?_
      cases step with
      | done b => exact pure b
      | yield b => exact ih

theorem discard {x : Parse α} (hx : Keeps x) : Keeps (discard x) := hx.bind fun _ => pure _

end Keeps

end Keeping

section Steps

theorem keeps_peek : Keeps peek? := .get_bind fun _ _ => .pure _

theorem keeps_atEnd : Keeps atEnd := .get_bind fun _ _ => .pure _

theorem keeps_fuelOf : Keeps fuelOf := .get_bind fun _ _ => .pure _

theorem keeps_current : Keeps current := .get_bind fun s _ => by
  split
  · exact .pure _
  · exact .failure

theorem keeps_bump : Keeps bump :=
  .get_bind fun _ hs => (Keeps.putRest hs _).bind fun _ => .pure _

theorem keeps_bumpIf (text : String) : Keeps (bumpIf text) := .get_bind fun s hs => by
  split
  · exact (Keeps.putRest hs _).bind fun _ => .pure _
  · exact .pure _

theorem keeps_skipSpace : Keeps skipSpace := .change fun s hs => by
  split
  · exact hs
  · exact hs

theorem keeps_skipBlanks : Keeps skipBlanks := .change fun _ hs => hs

theorem keeps_bumpSpace : Keeps bumpSpace :=
  keeps_bump.bind fun _ => .ite (.pure _) <|
    keeps_skipSpace.bind fun _ => keeps_atEnd.bind fun _ => .pure _

theorem keeps_advance : Keeps advance :=
  keeps_bumpSpace.bind fun _ => .ite .failure (.pure _)

theorem keeps_peekSpace : Keeps peekSpace? := .get_bind fun _ _ => .ite (.pure _) (.pure _)

theorem keeps_readBraced (fuel : Nat) (acc : List Char) : Keeps (readBraced fuel acc) := by
  induction fuel generalizing acc with
  | zero => exact .failure
  | succ fuel ih =>
      exact keeps_advance.bind fun _ => keeps_current.bind fun _ => .ite (.pure _) (ih _)

theorem keeps_readProperty : Keeps readProperty :=
  keeps_current.bind fun _ => keeps_advance.bind fun _ => keeps_current.bind fun _ =>
    .ite (keeps_fuelOf.bind fun _ => (keeps_readBraced _ _).bind fun _ =>
      keeps_bump.discard.bind fun _ => .pure _) <|
    .ite .failure (keeps_bumpSpace.discard.bind fun _ => .pure _)

theorem keeps_readHexDigits (n : Nat) (acc : List Char) : Keeps (readHexDigits n acc) := by
  induction n generalizing acc with
  | zero => exact .pure _
  | succ n ih =>
      exact keeps_current.bind fun _ => .unlessRefused <|
        .ite (keeps_bumpSpace.discard.bind fun _ => .pure _) (keeps_advance.bind fun _ => ih _)

theorem keeps_readHex : Keeps readHex :=
  keeps_current.bind fun _ => keeps_advance.bind fun _ => keeps_current.bind fun _ =>
    .ite
      (keeps_fuelOf.bind fun _ => (keeps_readBraced _ _).bind fun _ =>
        keeps_bumpSpace.discard.bind fun _ => .unlessRefused <| by
          split
          · exact .pure _
          · exact .failure)
      ((keeps_readHexDigits _ _).bind fun _ => by
        split
        · exact .pure _
        · exact .failure)

theorem keeps_readEdgeName (fuel : Nat) (acc : List Char) : Keeps (readEdgeName fuel acc) := by
  induction fuel generalizing acc with
  | zero => exact .failure
  | succ fuel ih =>
      refine keeps_peek.bind fun c => ?_
      cases c with
      | some c => exact .ite (keeps_bumpSpace.discard.bind fun _ => ih _) (.pure _)
      | none => exact .pure _

theorem keeps_readEdge : Keeps readEdge :=
  keeps_peek.bind fun _ => .ite (.pure _) <|
    .get_bind fun _ hs => keeps_advance.bind fun _ => keeps_current.bind fun _ =>
      .ite ((Keeps.put hs).bind fun _ => .pure _) <|
      keeps_fuelOf.bind fun _ => (keeps_readEdgeName _ _).bind fun _ => keeps_peek.bind fun _ =>
        .unlessRefused <| keeps_bump.discard.bind fun _ => by
          split
          any_goals exact .pure _
          exact .failure

theorem keeps_readEscape : Keeps readEscape :=
  keeps_bump.bind fun _ => .unlessRefused <| keeps_current.bind fun _ => .unlessRefused <|
    .ite keeps_readHex <| .ite keeps_readProperty <| keeps_bump.discard.bind fun _ =>
      .ite (.pure _) <| by
        split
        any_goals exact .pure _
        · exact keeps_readEdge.bind fun _ => .pure _
        · exact .failure

theorem keeps_setItem (p : Primitive) : Keeps p.setItem := by
  cases p with
  | literal | property | shorthand => exact .pure _
  | dot | assertion => exact .failure

theorem keeps_bound (p : Primitive) : Keeps p.bound := by
  cases p with
  | literal => exact .pure _
  | dot | assertion | property | shorthand => exact .failure

theorem keeps_readSetPrimitive : Keeps readSetPrimitive :=
  keeps_current.bind fun _ => .ite keeps_readEscape <|
    keeps_current.bind fun _ => keeps_bump.discard.bind fun _ => .pure _

theorem keeps_readSetRange : Keeps readSetRange :=
  keeps_readSetPrimitive.bind fun _ => keeps_skipSpace.bind fun _ => keeps_current.bind fun _ =>
    keeps_peekSpace.bind fun _ => .ite (keeps_setItem _) <|
      keeps_advance.bind fun _ => keeps_readSetPrimitive.bind fun _ => (keeps_bound _).bind fun _ =>
        (keeps_bound _).bind fun _ => .unlessRefused <| .pure _

theorem keeps_readAscii : Keeps readAscii? := .get_bind fun s hs => by
  split
  · dsimp only
    split
    · exact .ite ((Keeps.putRest hs _).bind fun _ => .pure _) (.pure _)
    · exact .pure _
  · exact .pure _

theorem keeps_readHyphens (fuel : Nat) (items : List SetExpression) :
    Keeps (readHyphens fuel items) := by
  induction fuel generalizing items with
  | zero => exact .failure
  | succ fuel ih =>
      exact keeps_current.bind fun _ => .ite (keeps_advance.bind fun _ => ih _) (.pure _)

theorem keeps_readSet (fuel : Nat) : Keeps (readSet fuel) ∧
    ∀ negated pending items, Keeps (readSetBody fuel negated pending items) := by
  induction fuel with
  | zero => exact ⟨.failure, fun _ _ _ => .failure⟩
  | succ fuel ih =>
      obtain ⟨hset, hbody⟩ := ih
      constructor
      · refine keeps_advance.bind fun _ => keeps_current.bind fun _ =>
          .ite (keeps_advance.bind fun _ => ?_) ?_
        all_goals
          exact keeps_fuelOf.bind fun _ => (keeps_readHyphens _ _).bind fun _ =>
            keeps_current.bind fun _ => .ite (keeps_advance.bind fun _ => hbody _ _ _) (hbody _ _ _)
      · intro negated pending items
        refine keeps_skipSpace.bind fun _ => keeps_current.bind fun c => ?_
        split
        · refine keeps_readAscii.bind fun _ => ?_
          split
          · exact hbody _ _ _
          · exact hset.bind fun _ => hbody _ _ _
        · exact keeps_bump.discard.bind fun _ => .pure _
        · exact (keeps_bumpIf _).bind fun _ => .ite (hbody _ _ _) <|
            (keeps_bumpIf _).bind fun _ => .ite (hbody _ _ _) <|
              (keeps_bumpIf _).bind fun _ => .ite (hbody _ _ _) <|
                keeps_readSetRange.bind fun _ => hbody _ _ _

theorem keeps_repeatable (parts : List Expression) : Keeps (repeatable parts) := by
  unfold repeatable
  split
  any_goals exact .failure
  exact .pure _

theorem keeps_readGreedy : Keeps readGreedy :=
  keeps_peek.bind fun _ => .ite (keeps_bump.discard.bind fun _ => .pure _) (.pure _)

theorem keeps_readDigits (fuel : Nat) (acc : List Char) : Keeps (readDigits fuel acc) := by
  induction fuel generalizing acc with
  | zero => exact .failure
  | succ fuel ih =>
      refine keeps_peek.bind fun c => ?_
      cases c with
      | some c => exact .ite (keeps_bumpSpace.discard.bind fun _ => ih _) (.pure _)
      | none => exact .pure _

theorem keeps_readCount : Keeps readCount :=
  keeps_skipBlanks.bind fun _ => keeps_fuelOf.bind fun _ => (keeps_readDigits _ _).bind fun _ =>
    keeps_skipBlanks.bind fun _ => keeps_skipSpace.bind fun _ => .unlessRefused <| .pure _

theorem keeps_readCounted (before : List Expression) : Keeps (readCounted before) := by
  refine (keeps_repeatable _).bind fun _ => keeps_advance.bind fun _ => keeps_readCount.bind
    fun _ => keeps_current.bind fun _ => .ite
      (keeps_advance.bind fun _ => keeps_current.bind fun _ =>
        .ite ?_ (keeps_readCount.bind fun _ => ?_)) ?_
  all_goals
    exact keeps_current.bind fun _ => .unlessRefused <| keeps_bumpSpace.discard.bind fun _ =>
      keeps_readGreedy.bind fun _ => .unlessRefused <| .pure _

theorem keeps_readFlags (fuel : Nat) (flags : FlagList) (off dangling : Bool) :
    Keeps (readFlags fuel flags off dangling) := by
  induction fuel generalizing flags off dangling with
  | zero => exact .failure
  | succ fuel ih =>
      refine keeps_current.bind fun _ => .ite (.unlessRefused <| .pure _) <|
        .ite (.unlessRefused <| keeps_bump.discard.bind fun _ => ih _ _ _) ?_
      split
      · exact .failure
      · exact .unlessRefused <| keeps_bump.discard.bind fun _ => ih _ _ _

theorem keeps_readName (fuel : Nat) (acc : List Char) : Keeps (readName fuel acc) := by
  induction fuel generalizing acc with
  | zero => exact .failure
  | succ fuel ih =>
      exact keeps_current.bind fun _ => .ite
        (keeps_bump.discard.bind fun _ => .unlessRefused <| .pure _)
        (.unlessRefused <| keeps_bump.discard.bind fun _ => ih _)

theorem keeps_bumpNaming : Keeps bumpNaming :=
  (keeps_bumpIf _).bind fun _ => .ite (.pure _) (keeps_bumpIf _)

end Steps

/-! ## Where a name is added -/

/-- A name is spelled by the rules if its characters are, the first one last. -/
theorem isGroupName_of_reverse {acc : List Char} (hne : acc ≠ [])
    (hall : ∀ c ∈ acc, isNameChar false c = true)
    (hlast : ∀ c ∈ acc.getLast?, isNameChar true c = true) : IsGroupName acc.reverse :=
  ⟨by simpa using hne, by simpa using hlast, by simpa using hall⟩

theorem isNameChar_of_first {first : Bool} {c : Char} (h : isNameChar first c = true) :
    isNameChar false c = true := by
  cases first with
  | false => exact h
  | true => simp_all [isNameChar]

theorem isGroupName_of_readName {fuel : Nat} {acc : List Char} {s s' : State} {name : String}
    (hall : ∀ c ∈ acc, isNameChar false c = true)
    (hfirst : ∀ c ∈ acc.getLast?, isNameChar true c = true)
    (h : readName fuel acc s = some (name, s')) : IsGroupName name.toList := by
  induction fuel generalizing acc s with
  | zero => cases h
  | succ fuel ih =>
      rw [readName] at h
      obtain ⟨c, t, -, h⟩ := exists_of_bind h
      split at h
      · obtain ⟨-, u, -, h⟩ := exists_of_bind h
        split at h
        · cases h
        · next hne =>
          cases h
          rw [String.toList_ofList]
          exact isGroupName_of_reverse (by simpa using hne) hall hfirst
      · split at h
        · cases h
        · next hc =>
          obtain ⟨-, u, -, h⟩ := exists_of_bind h
          have hc : isNameChar acc.isEmpty c = true := by simpa using hc
          refine ih (List.forall_mem_cons.mpr ⟨isNameChar_of_first hc, hall⟩) ?_ h
          cases acc with
          | nil => simpa using hc
          | cons d ds => simpa using hfirst

theorem keeps_setCaptures (n : Nat) :
    Keeps (modify fun s => { s with captures := n } : Parse PUnit) := .change fun _ hs => hs

theorem keeps_addName {name : String} (hname : IsGroupName name.toList) (index : Nat) :
    Keeps (modify fun s => { s with names := (name, index) :: s.names } : Parse PUnit) :=
  .change fun _ hs => List.forall_mem_cons.mpr ⟨hname, hs⟩

theorem keeps_modifySpaced (on : Bool) :
    Keeps (modify fun s => { s with spaced := on } : Parse PUnit) := .change fun _ hs => hs

theorem keeps_setSpaced (flags : FlagList) : Keeps (setSpaced flags) := by
  unfold setSpaced
  split
  · exact keeps_modifySpaced _
  · exact .pure _

/-- The name of a group is read before it is added. -/
theorem Keeps.readName_bind {β : Type} {fuel : Nat} {k : String → Parse β}
    (hk : ∀ name : String, IsGroupName name.toList → Keeps (k name)) :
    Keeps (readName fuel [] >>= k) := by
  intro s b s' h hs
  obtain ⟨name, t, hname, h⟩ := exists_of_bind h
  exact hk name (isGroupName_of_readName (by simp) (by simp) hname) t b s' h
    (keeps_readName fuel [] s name t hname hs)

theorem keeps_readOpening : Keeps readOpening := by
  refine keeps_bump.discard.bind fun _ => keeps_skipSpace.bind fun _ => .get_bind fun s _ =>
    (Keeps.forIn fun _ _ => .unlessRefused <| .pure _).bind fun _ =>
      keeps_bumpNaming.bind fun _ => .ite ?_ <| (keeps_bumpIf _).bind fun _ => .ite ?_ ?_
  · exact .get_bind fun _ _ => (keeps_setCaptures _).bind fun _ => keeps_fuelOf.bind fun _ =>
      .readName_bind fun _ hname => .get_bind fun _ _ => .unlessRefused <|
        (keeps_addName hname _).bind fun _ => .pure _
  · exact keeps_fuelOf.bind fun _ => (keeps_readFlags _ _ _ _).bind fun _ => keeps_current.bind
      fun _ => keeps_bump.discard.bind fun _ => .ite (.unlessRefused <| .pure _) (.pure _)
  · exact .get_bind fun _ _ => (keeps_setCaptures _).bind fun _ => .pure _

theorem keeps_readBranches (fuel : Nat) (branches parts : List Expression) :
    Keeps (readBranches fuel branches parts) := by
  induction fuel generalizing branches parts with
  | zero =>
      rw [readBranches]
      exact .failure
  | succ fuel ih =>
      have hrepeated (min : Nat) (max : Option Nat) :
          Keeps (readBranches.readRepeated fuel branches parts min max) := by
        unfold readBranches.readRepeated
        exact (keeps_repeatable _).bind fun _ => keeps_bump.discard.bind fun _ =>
          keeps_readGreedy.bind fun _ => ih _ _
      have hgroup (kind : GroupKind) (outer : Bool) : Keeps (do
          let body ← readBranches fuel [] []
          if (← peek?) != some ')' then failure
          modify fun s => { s with spaced := outer }
          discard bump
          readBranches fuel branches (.group kind body :: parts)) :=
        (ih _ _).bind fun _ => keeps_peek.bind fun _ => .unlessRefused <|
          (keeps_modifySpaced _).bind fun _ => keeps_bump.discard.bind fun _ => ih _ _
      rw [readBranches]
      refine keeps_skipSpace.bind fun _ => keeps_peek.bind fun c => ?_
      split
      · exact .pure _
      · exact .pure _
      · exact keeps_bump.discard.bind fun _ => ih _ _
      · refine keeps_readOpening.bind fun _ => ?_
        split
        · exact (keeps_setSpaced _).bind fun _ => ih _ _
        · -- Flags that a group has of its own are in force until it closes.
          refine .get_bind fun _ _ => ?_
          dsimp only
          split
          · exact (keeps_setSpaced _).bind fun _ => hgroup _ _
          · exact hgroup _ _
      · exact keeps_fuelOf.bind fun _ => (keeps_readSet _).1.bind fun _ => ih _ _
      · exact hrepeated _ _
      · exact hrepeated _ _
      · exact hrepeated _ _
      · exact (keeps_readCounted _).bind fun _ => ih _ _
      · exact keeps_readEscape.bind fun _ => ih _ _
      · exact keeps_bump.discard.bind fun _ => ih _ _

end Reader

/-- Every name of a pattern that has been read is spelled by the rules. -/
theorem isGroupName_of_read {text : String} {written : Written} (h : read? text = some written) :
    ∀ e ∈ written.names, IsGroupName e.1.toList := by
  obtain ⟨⟨body, s⟩, hbranches, h⟩ := Option.bind_eq_some_iff.mp h
  dsimp only at h
  split at h
  · cases h
  · cases h
    exact Reader.keeps_readBranches _ _ _ _ _ s hbranches (List.forall_mem_nil _)

theorem isGroupName_of_compile {limit : Nat} {flags : Flags} {text : String} {p : Pattern}
    (h : compile limit flags text = .ok p) : ∀ e ∈ p.names, IsGroupName e.1.toList := by
  unfold compile interpret at h
  split at h
  · cases h
  · next written hread =>
    split at h
    · cases h
    · split at h
      · cases h
      · cases h
        exact isGroupName_of_read hread

end Newswire.Pattern
