import Mathlib.Data.Option.Basic
import Newswire.Pattern.Basic
import Newswire.Proofs.Character.Sets

/-!
# Patterns without regard to case

A pattern has a meaning without regard to case exactly when it has one with regard to it. All that
disregarding case can change is the extent: folding makes sets larger, so that a pattern may go
beyond a bound that it kept before.
-/

namespace Newswire

namespace CharSet

/-- A set in order that lies within ASCII. -/
structure IsNarrow (s : CharSet) : Prop where
  tidy : s.IsTidy
  lt : ∀ n, s.Holds n → n < 0x80

section Narrow

variable {s t : CharSet}

theorem IsNarrow.isAscii (hs : s.IsNarrow) : s.isAscii = true := (isAscii_iff hs.tidy).mpr hs.lt

theorem IsNarrow.end_lt (hs : s.IsNarrow) {r : Nat × Nat} (hr : r ∈ s.ranges.toList) :
    r.2 < 0x80 :=
  hs.lt r.2 ⟨r, hr, hs.tidy.filled r hr, Nat.le_refl _⟩

/-- What is left out of a set within ASCII does not lie within ASCII. -/
theorem IsNarrow.isAscii_negate (hs : s.IsNarrow) : s.negate.isAscii = false := by
  rw [Bool.eq_false_iff]
  intro h
  have hmem : s.negate.Holds 0x80 :=
    (holds_negate hs.tidy).mpr ⟨by decide, fun hn => Nat.lt_irrefl _ (hs.lt _ hn)⟩
  exact Nat.lt_irrefl _ ((isAscii_iff hs.tidy.negate).mp h _ hmem)

theorem isNarrow_ofRanges {rs : List (Nat × Nat)} (h : ∀ r ∈ rs, r.2 < 0x80) :
    (ofRanges rs).IsNarrow := by
  have htop : ∀ r ∈ rs, r.2 ≤ top := fun r hr => Nat.le_trans (Nat.le_of_lt (h r hr)) (by decide)
  refine ⟨IsTidy.ofRanges htop, fun n hn => ?_⟩
  obtain ⟨r, hr, -, hle⟩ := ((ofRanges_spec htop).2 n).mp hn
  exact Nat.lt_of_le_of_lt hle (h r hr)

theorem isNarrow_empty : empty.IsNarrow := ⟨inOrder_nil, fun _ hn => absurd hn covers_nil⟩

theorem isNarrow_range {lo hi : Nat} (h : hi < 0x80) : (range lo hi).IsNarrow := by
  unfold range
  split
  · next hle =>
    refine ⟨inOrder_singleton hle (Nat.le_trans (Nat.le_of_lt h) (by decide)), ?_⟩
    rintro n ⟨r, hr, -, hn⟩
    rw [List.mem_singleton.mp hr] at hn
    exact Nat.lt_of_le_of_lt hn h
  · exact isNarrow_empty

theorem isNarrow_single {n : Nat} (h : n < 0x80) : (single n).IsNarrow := by
  have hn : (range n n).IsNarrow := isNarrow_range h
  rwa [range, if_pos (Nat.le_refl n)] at hn

theorem isNarrow_unions {sets : List CharSet} (h : ∀ s ∈ sets, s.IsNarrow) :
    (Character.unions sets).IsNarrow := by
  apply isNarrow_ofRanges
  intro r hr
  obtain ⟨s, hs, hr⟩ := List.mem_flatMap.mp hr
  exact (h s hs).end_lt hr

theorem IsNarrow.union (hs : s.IsNarrow) (ht : t.IsNarrow) : (s.union t).IsNarrow :=
  ⟨hs.tidy.union ht.tidy, fun n hn =>
    ((holds_union hs.tidy ht.tidy).mp hn).elim (hs.lt n) (ht.lt n)⟩

theorem IsNarrow.inter (hs : s.IsNarrow) (ht : t.IsNarrow) : (s.inter t).IsNarrow :=
  ⟨hs.tidy.inter ht.tidy, fun n hn => hs.lt n ((holds_inter hs.tidy ht.tidy).mp hn).1⟩

theorem IsNarrow.diff (hs : s.IsNarrow) (ht : t.IsNarrow) : (s.diff t).IsNarrow :=
  ⟨hs.tidy.diff ht.tidy, fun n hn => hs.lt n ((holds_diff hs.tidy ht.tidy).mp hn).1⟩

theorem IsNarrow.symmDiff (hs : s.IsNarrow) (ht : t.IsNarrow) : (s.symmDiff t).IsNarrow :=
  ⟨hs.tidy.symmDiff ht.tidy, fun n hn =>
    ((holds_symmDiff hs.tidy ht.tidy).mp hn).1.elim (hs.lt n) (ht.lt n)⟩

end Narrow

end CharSet

namespace Pattern

open CharSet Character

theorem isNarrow_asciiFold {s : CharSet} (hs : s.IsNarrow) : (asciiFold s).IsNarrow := by
  have hupper : (s.inter (range 0x41 0x5A)).IsNarrow := hs.inter (isNarrow_range (by decide))
  have hlower : (s.inter (range 0x61 0x7A)).IsNarrow := hs.inter (isNarrow_range (by decide))
  apply isNarrow_unions
  refine List.forall_mem_cons.mpr ⟨hs, List.forall_mem_cons.mpr
    ⟨isNarrow_ofRanges fun r hr => ?_, List.forall_mem_singleton.mpr
      (isNarrow_ofRanges fun r hr => ?_)⟩⟩
  · obtain ⟨q, hq, rfl⟩ := List.mem_map.mp hr
    -- The end of a range of capitals is a capital, and thirty-two letters on is a small one.
    have hmem : (range 0x41 0x5A).Holds q.2 :=
      ((holds_inter hs.tidy (isNarrow_range (by decide)).tidy).mp
        ⟨q, hq, hupper.tidy.filled q hq, Nat.le_refl _⟩).2
    obtain ⟨p, hp, -, hle⟩ := hmem
    rw [List.mem_singleton.mp hp] at hle
    simp only at hle ⊢
    omega
  · obtain ⟨q, hq, rfl⟩ := List.mem_map.mp hr
    have hlt := hlower.end_lt hq
    simp only
    omega

/-- Where a set has to lie within ASCII, it does so unless it is negated. -/
theorem keep_of_isNarrow {s : CharSet} (hs : s.IsNarrow) (negated : Bool) :
    (let t := if negated then s.negate else s
     if false = true ∨ t.isAscii = true then some t else none) =
      if negated then none else some s := by
  cases negated with
  | false => simp [hs.isAscii]
  | true => simp [hs.isAscii_negate]

namespace Flags

variable {fs : Flags} {s : CharSet}

theorem isNarrow_fold (hu : fs.unicode = false) (hs : s.IsNarrow) : (fs.fold s).IsNarrow := by
  unfold fold
  split
  · exact hs
  · rw [hu]
    exact isNarrow_asciiFold hs

theorem finish_of_unicode (hu : fs.unicode = true) (negated : Bool) (s : CharSet) :
    ∃ t, fs.finish negated s = some t := by
  simp [finish, hu]

theorem finish_of_isNarrow (hu : fs.unicode = false) (hs : s.IsNarrow) (negated : Bool) :
    fs.finish negated s = if negated then none else some (fs.fold s) := by
  unfold finish
  rw [hu]
  exact keep_of_isNarrow (isNarrow_fold hu hs) negated

/-- The flags with another answer to whether case is disregarded. -/
def withCase (fs : Flags) (b : Bool) : Flags := { fs with ignoreCase := b }

@[simp] theorem unicode_withCase (b : Bool) : (fs.withCase b).unicode = fs.unicode := rfl

theorem update_withCase (b : Bool) (list : FlagList) :
    ∃ b', (fs.withCase b).update list = (fs.update list).withCase b' := by
  induction list generalizing fs b with
  | nil => exact ⟨b, rfl⟩
  | cons f rest ih =>
      have hset : ∃ b', (fs.withCase b).set f = (fs.set f).withCase b' := by
        obtain ⟨flag, on⟩ := f
        cases flag with
        | ignoreCase => exact ⟨on, rfl⟩
        | _ => exact ⟨b, rfl⟩
      obtain ⟨b', hb'⟩ := hset
      simp only [update, List.foldl_cons, hb']
      exact ih b'

end Flags

/-- Two sets of which nothing need be known if there are characters beyond ASCII. -/
def Paired (fs : Flags) (s t : CharSet) : Prop := fs.unicode = false → s.IsNarrow ∧ t.IsNarrow

theorem rel_bind {α β γ δ : Type} {R : α → β → Prop} {S : γ → δ → Prop} {a : Option α}
    {b : Option β} {f : α → Option γ} {g : β → Option δ} (h : Option.Rel R a b)
    (hfg : ∀ x y, R x y → Option.Rel S (f x) (g y)) : Option.Rel S (a.bind f) (b.bind g) := by
  cases h with
  | some h => exact hfg _ _ h
  | none => exact .none

section Members

variable (fs : Flags) (b : Bool)

theorem Paired.fold {s t : CharSet} (h : Paired fs s t) :
    Paired fs (fs.fold s) ((fs.withCase b).fold t) :=
  fun hu => ⟨Flags.isNarrow_fold hu (h hu).1, Flags.isNarrow_fold hu (h hu).2⟩

theorem Paired.finish {s t : CharSet} (h : Paired fs s t) (negated : Bool) :
    Option.Rel (Paired fs) (fs.finish negated s) ((fs.withCase b).finish negated t) := by
  cases hu : fs.unicode with
  | true =>
      obtain ⟨s', hs'⟩ := Flags.finish_of_unicode hu negated s
      obtain ⟨t', ht'⟩ := Flags.finish_of_unicode ((Flags.unicode_withCase b).trans hu) negated t
      rw [hs', ht']
      exact .some fun hno => by simp [hu] at hno
  | false =>
      obtain ⟨hs, ht⟩ := h hu
      rw [Flags.finish_of_isNarrow hu hs,
        Flags.finish_of_isNarrow ((Flags.unicode_withCase b).trans hu) ht]
      cases negated with
      | true => exact .none
      | false => exact .some (h.fold fs b)

theorem isNarrow_asciiDigits : asciiDigits.IsNarrow := isNarrow_range (by decide)

theorem isNarrow_asciiSpaces : asciiSpaces.IsNarrow :=
  isNarrow_unions (by simp [isNarrow_range, isNarrow_single])

theorem isNarrow_asciiWordChars : asciiWordChars.IsNarrow :=
  isNarrow_unions (by simp [isNarrow_range, isNarrow_single])

theorem isNarrow_asciiClass (name : String) : (asciiClass name).IsNarrow := by
  have hletters : asciiLetters.IsNarrow := isNarrow_unions (by simp [isNarrow_range])
  unfold asciiClass
  split <;> simp [isNarrow_empty, isNarrow_range, isNarrow_single, isNarrow_unions, hletters,
    isNarrow_asciiDigits, isNarrow_asciiSpaces, isNarrow_asciiWordChars]

/-- What a shorthand stands for where there is nothing beyond ASCII. -/
def narrowShorthand : Shorthand → CharSet
  | .digit => asciiDigits
  | .space => asciiSpaces
  | .word => asciiWordChars

theorem isNarrow_narrowShorthand (kind : Shorthand) : (narrowShorthand kind).IsNarrow := by
  cases kind with
  | digit => exact isNarrow_asciiDigits
  | space => exact isNarrow_asciiSpaces
  | word => exact isNarrow_asciiWordChars

theorem shorthand_of_narrow {fs : Flags} (hu : fs.unicode = false) (kind : Shorthand)
    (negated : Bool) :
    fs.shorthand kind negated = if negated then none else some (narrowShorthand kind) := by
  unfold Flags.shorthand
  rw [hu]
  cases kind with
  | digit => exact keep_of_isNarrow isNarrow_asciiDigits negated
  | space => exact keep_of_isNarrow isNarrow_asciiSpaces negated
  | word => exact keep_of_isNarrow isNarrow_asciiWordChars negated

theorem paired_shorthand (kind : Shorthand) (negated : Bool) :
    Option.Rel (Paired fs) (fs.shorthand kind negated)
      ((fs.withCase b).shorthand kind negated) := by
  have hsame : (fs.withCase b).shorthand kind negated = fs.shorthand kind negated := rfl
  rw [hsame]
  cases hr : fs.shorthand kind negated with
  | none => exact .none
  | some t =>
      refine .some fun hu => ?_
      rw [shorthand_of_narrow hu] at hr
      cases negated with
      | true => cases hr
      | false =>
          obtain rfl := Option.some.inj hr
          exact ⟨isNarrow_narrowShorthand kind, isNarrow_narrowShorthand kind⟩

theorem paired_property (p : Property) (negated : Bool) :
    Option.Rel (Paired fs) (fs.property p negated) ((fs.withCase b).property p negated) := by
  unfold Flags.property
  cases hu : fs.unicode with
  | false => simp [hu]
  | true =>
      simp only [hu, Flags.unicode_withCase, Bool.not_true, Bool.false_eq_true, if_false]
      cases propertySet p with
      | none => exact .none
      | some s => exact Paired.finish fs b (fun hno => by simp [hu] at hno) negated

theorem member_lt {fs : Flags} {l : Literal} {n : Nat} (h : fs.member l = some n)
    (hu : fs.unicode = false) : n < 0x80 := by
  unfold Flags.member at h
  rw [hu] at h
  split at h
  · next hlt =>
    obtain rfl := Option.some.inj h
    simpa using hlt
  · cases h

mutual

/-- A set has members whether or not case is regarded, and is narrow either way if it has to be. -/
theorem paired_members : ∀ e : SetExpression,
    Option.Rel (Paired fs) (fs.members e) ((fs.withCase b).members e)
  | .nothing => .some fun _ => ⟨isNarrow_empty, isNarrow_empty⟩
  | .literal l => by
      have hsame : (fs.withCase b).members (.literal l) = fs.members (.literal l) := rfl
      rw [hsame, Flags.members]
      cases hl : fs.member l with
      | none => exact .none
      | some n =>
          exact .some fun hu =>
            ⟨isNarrow_single (member_lt hl hu), isNarrow_single (member_lt hl hu)⟩
  | .range lo hi => by
      have hsame : (fs.withCase b).members (.range lo hi) = fs.members (.range lo hi) := rfl
      rw [hsame, Flags.members]
      cases fs.member lo with
      | none => exact .none
      | some m =>
          cases hh : fs.member hi with
          | none => exact .none
          | some n =>
              exact .some fun hu =>
                ⟨isNarrow_range (member_lt hh hu), isNarrow_range (member_lt hh hu)⟩
  | .ascii name negated =>
      Paired.finish fs b (fun _ => ⟨isNarrow_asciiClass name, isNarrow_asciiClass name⟩) negated
  | .property p negated => paired_property fs b p negated
  | .shorthand kind negated => paired_shorthand fs b kind negated
  | .bracketed negated body =>
      rel_bind (paired_members body) fun _ _ h => Paired.finish fs b h negated
  | .union items => paired_membersOfAll items
  | .operation op lhs rhs =>
      rel_bind (paired_members lhs) fun _ _ hl => rel_bind (paired_members rhs) fun _ _ hr => by
        have hl := hl.fold fs b
        have hr := hr.fold fs b
        cases op with
        | intersection =>
            exact .some fun hu => ⟨(hl hu).1.inter (hr hu).1, (hl hu).2.inter (hr hu).2⟩
        | difference =>
            exact .some fun hu => ⟨(hl hu).1.diff (hr hu).1, (hl hu).2.diff (hr hu).2⟩
        | symmetricDifference =>
            exact .some fun hu => ⟨(hl hu).1.symmDiff (hr hu).1, (hl hu).2.symmDiff (hr hu).2⟩

theorem paired_membersOfAll : ∀ items : List SetExpression,
    Option.Rel (Paired fs) (fs.membersOfAll items) ((fs.withCase b).membersOfAll items)
  | [] => .some fun _ => ⟨isNarrow_empty, isNarrow_empty⟩
  | e :: rest =>
      rel_bind (paired_members e) fun _ _ hs =>
        rel_bind (paired_membersOfAll rest) fun _ _ ht =>
          .some fun hu => ⟨(hs hu).1.union (ht hu).1, (hs hu).2.union (ht hu).2⟩

end

end Members

/-- Both meanings leave flags behind that differ in nothing but the case. -/
def SameFlags (p q : Node × Flags) : Prop := ∃ b, q.2 = p.2.withCase b

section Meaning

theorem sameFlags_set {R : CharSet → CharSet → Prop} {s t : Option CharSet} (fs : Flags) (b : Bool)
    (h : Option.Rel R s t) :
    Option.Rel SameFlags (s.bind fun s => some (Node.set s, fs))
      (t.bind fun t => some (Node.set t, fs.withCase b)) :=
  rel_bind h fun _ _ _ => .some ⟨b, rfl⟩

theorem rel_eq {α : Type} (a : Option α) : Option.Rel (· = ·) a a := by
  cases a with
  | none => exact .none
  | some _ => exact .some rfl

mutual

/-- A meaning without regard to case is there whenever one with regard to it is. -/
theorem sameFlags_meaning : ∀ (e : Expression) (fs : Flags) (b : Bool),
    Option.Rel SameFlags (meaning fs e) (meaning (fs.withCase b) e)
  | .empty, _, b => .some ⟨b, rfl⟩
  | .flags list, _, b => .some (Flags.update_withCase b list)
  | .literal l, fs, b => by
      have hchar : Option.Rel (fun _ _ => True) (fs.literal l) ((fs.withCase b).literal l) := by
        unfold Flags.literal
        rw [Flags.unicode_withCase]
        split
        · exact .some trivial
        · split
          · exact .none
          · exact .some trivial
      exact sameFlags_set fs b hchar
  | .dot, fs, b => sameFlags_set fs b (rel_eq fs.dot)
  | .assertion _, _, b => .some ⟨b, rfl⟩
  | .property p negated, fs, b => sameFlags_set fs b (paired_property fs b p negated)
  | .shorthand kind negated, fs, b => sameFlags_set fs b (paired_shorthand fs b kind negated)
  | .set negated body, fs, b =>
      rel_bind (paired_members fs b body) fun _ _ h =>
        sameFlags_set fs b (Paired.finish fs b h negated)
  | .repetition _ _ _ body, fs, b =>
      rel_bind (sameFlags_meaning body fs b) fun _ _ _ => .some ⟨b, rfl⟩
  | .group (.captured _ _) body, fs, b =>
      rel_bind (sameFlags_meaning body fs b) fun _ _ _ => .some ⟨b, rfl⟩
  | .group (.flagged list) body, fs, b => by
      obtain ⟨b', hb'⟩ := fs.update_withCase b list
      have hbody := sameFlags_meaning body (fs.update list) b'
      rw [← hb'] at hbody
      exact rel_bind hbody fun _ _ _ => .some ⟨b, rfl⟩
  | .alternation branches, fs, b => sameFlags_branches branches fs b
  | .sequence parts, fs, b => sameFlags_parts parts fs b

theorem sameFlags_parts : ∀ (parts : List Expression) (fs : Flags) (b : Bool),
    Option.Rel SameFlags (meaningOfParts fs parts) (meaningOfParts (fs.withCase b) parts)
  | [], _, b => .some ⟨b, rfl⟩
  | e :: rest, fs, b =>
      rel_bind (sameFlags_meaning e fs b) fun p q hfirst => by
        obtain ⟨b', hb'⟩ := hfirst
        obtain ⟨node, fs'⟩ := q
        obtain rfl : fs' = p.2.withCase b' := hb'
        exact rel_bind (sameFlags_parts rest p.2 b') fun _ _ hmore => .some hmore

theorem sameFlags_branches : ∀ (branches : List Expression) (fs : Flags) (b : Bool),
    Option.Rel SameFlags (meaningOfBranches fs branches)
      (meaningOfBranches (fs.withCase b) branches)
  | [], _, b => .some ⟨b, rfl⟩
  | [e], fs, b => sameFlags_meaning e fs b
  | e :: e' :: rest, fs, b =>
      rel_bind (sameFlags_meaning e fs b) fun p q hfirst => by
        obtain ⟨b', hb'⟩ := hfirst
        obtain ⟨node, fs'⟩ := q
        obtain rfl : fs' = p.2.withCase b' := hb'
        exact rel_bind (sameFlags_branches (e' :: rest) p.2 b') fun _ _ hmore => .some hmore

end

end Meaning

/-- The storage that a text takes as a pattern under flags; `none` if it is malformed. -/
def extent? [Measure] (flags : Flags) (text : String) : Option Nat := do
  let written ← read? text
  let (node, _) ← meaning flags written.body
  return Measure.extent node

/-- A text is malformed under flags with and without regard to case, or under none of them. -/
theorem isSome_extent?_withCase [Measure] (flags : Flags) (b : Bool) (text : String) :
    (extent? (flags.withCase b) text).isSome = (extent? flags text).isSome := by
  unfold extent?
  cases read? text with
  | none => rfl
  | some written =>
      have hrel := sameFlags_meaning written.body flags b
      simp only [Option.bind_eq_bind, Option.bind_some]
      generalize meaning flags written.body = p at hrel ⊢
      generalize meaning (flags.withCase b) written.body = q at hrel ⊢
      cases hrel with
      | some _ => rfl
      | none => rfl

/-- What is malformed is refused and what is beyond the bound, and nothing else. -/
theorem interpret_eq_error_iff [Measure] {limit : Nat} {flags : Flags} {text : String}
    {cause : Refusal} :
    interpret limit flags text = .error cause ↔
      (extent? flags text = none ∧ cause = .malformed) ∨
        ∃ n ∈ extent? flags text, limit < n ∧ cause = .tooLarge limit := by
  unfold interpret extent?
  cases read? text with
  | none => simp [eq_comm]
  | some written =>
      cases hm : meaning flags written.body with
      | none => simp [hm, eq_comm]
      | some p =>
          obtain ⟨node, fs⟩ := p
          by_cases hlimit : Measure.extent node > limit
          · simp [hm, hlimit, eq_comm]
          · simp [hm, hlimit]

theorem compile_eq_error_iff [Measure] {limit : Nat} {flags : Flags} {text : String}
    {cause : Refusal} :
    compile limit flags text = .error cause ↔ interpret limit flags text = .error cause := by
  unfold compile
  cases interpret limit flags text with
  | ok accepted => simp [bind, Except.bind, pure, Except.pure]
  | error cause' => simp [bind, Except.bind]

end Pattern

end Newswire
