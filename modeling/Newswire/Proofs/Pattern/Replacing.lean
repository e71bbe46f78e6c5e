import Mathlib.Data.List.Basic
import Mathlib.Data.List.TakeWhile
import Mathlib.Tactic.Push
import Newswire.Pattern.Replacement

/-!
# What replacements mean

A replacement is a sequence of characters and of references to groups. Its form in braces is filled
in piece by piece, each reference by the text of its group. Only a name with a closing brace in it
is not kept: the form takes it to end there, and what is left of it for text.
-/

namespace Newswire.Pattern.Replacement

/-- A piece of a replacement. -/
inductive Piece where
  | plain (c : Char)
  | whole
  | numbered (digits : List Char)
  | named (name : List Char)
  deriving Repr, DecidableEq

/-- The text does not go on in such a way that a dollar in front of it means something. -/
structure IsIdle (rest : List Char) : Prop where
  head : ∀ c ∈ rest.head?, c ≠ '$' ∧ c ≠ '&' ∧ c.isDigit = false
  unclosed : rest.head? = some '<' → '>' ∉ rest

/-- The pieces that a replacement is made of. -/
inductive Reads : List Char → List Piece → Prop where
  | empty : Reads [] []
  | plain {c : Char} {rest : List Char} {pieces : List Piece} :
      c ≠ '$' → Reads rest pieces → Reads (c :: rest) (.plain c :: pieces)
  | dollar {rest : List Char} {pieces : List Piece} :
      Reads rest pieces → Reads ('$' :: '$' :: rest) (.plain '$' :: pieces)
  | whole {rest : List Char} {pieces : List Piece} :
      Reads rest pieces → Reads ('$' :: '&' :: rest) (.whole :: pieces)
  | numbered {digits rest : List Char} {pieces : List Piece} :
      digits ≠ [] → (∀ d ∈ digits, d.isDigit = true) → (∀ c ∈ rest.head?, c.isDigit = false) →
        Reads rest pieces → Reads ('$' :: (digits ++ rest)) (.numbered digits :: pieces)
  | named {name rest : List Char} {pieces : List Piece} :
      '>' ∉ name → Reads rest pieces →
        Reads ('$' :: '<' :: (name ++ '>' :: rest)) (.named name :: pieces)
  | idle {rest : List Char} {pieces : List Piece} :
      IsIdle rest → Reads rest pieces → Reads ('$' :: rest) (.plain '$' :: pieces)

namespace Piece

/-- The name by which a piece refers to a group. -/
def name? : Piece → Option (List Char)
  | plain _ => none
  | whole => some ['0']
  | numbered digits => some digits
  | named name => some name

/-- The text of a piece, where `group` gives the texts of the groups. -/
def filled (group : List Char → List Char) : Piece → List Char
  | plain c => [c]
  | whole => group ['0']
  | numbered digits => group digits
  | named name => group name

/-- The piece in the form in braces. -/
def form : Piece → List Char
  | plain c => if c = '$' then ['$', '$'] else [c]
  | whole => braced ['0']
  | numbered digits => braced digits
  | named name => braced name

end Piece

section SplitAt

variable {c : Char} {before after : List Char}

theorem forall_ne_of_not_mem (h : c ∉ before) : ∀ d ∈ before, (d != c) = true := by
  rintro d hd
  simpa using fun he : d = c => h (he ▸ hd)

theorem splitAt_append (h : c ∉ before) :
    splitAt c (before ++ c :: after) = some (before, after) := by
  have hbefore := forall_ne_of_not_mem h
  rw [splitAt, List.takeWhile_append_of_pos hbefore, List.dropWhile_append_of_pos hbefore,
    List.takeWhile_cons_of_neg (by simp), List.dropWhile_cons_of_neg (by simp), List.append_nil]

theorem splitAt_eq_none (h : c ∉ before) : splitAt c before = none := by
  rw [splitAt, List.dropWhile_eq_nil_iff.mpr (forall_ne_of_not_mem h)]

end SplitAt

section Reading

variable {cs rest : List Char} {pieces : List Piece}

theorem takeWhile_append_of_stop {p : Char → Bool} {run : List Char} (hrun : ∀ d ∈ run, p d = true)
    (hstop : ∀ c ∈ rest.head?, p c = false) :
    (run ++ rest).takeWhile p = run ∧ (run ++ rest).dropWhile p = rest := by
  rw [List.takeWhile_append_of_pos hrun, List.dropWhile_append_of_pos hrun]
  cases rest with
  | nil => simp
  | cons c more =>
      have hc : ¬ p c = true := by simpa using hstop c rfl
      rw [List.takeWhile_cons_of_neg hc, List.dropWhile_cons_of_neg hc, List.append_nil]
      exact ⟨rfl, rfl⟩

/-- A dollar stands in front of a reference, or it is idle. -/
theorem exists_reads_dollar
    (hread : ∀ more, more.length ≤ rest.length → ∃ pieces, Reads more pieces) :
    ∃ pieces, Reads ('$' :: rest) pieces := by
  cases rest with
  | nil => exact ⟨_, .idle ⟨by simp, by simp⟩ .empty⟩
  | cons c more =>
      obtain ⟨pieces, hpieces⟩ := hread (c :: more) (Nat.le_refl _)
      obtain ⟨others, hothers⟩ := hread more (Nat.le_succ _)
      by_cases hdollar : c = '$'
      · subst hdollar
        exact ⟨_, .dollar hothers⟩
      by_cases hwhole : c = '&'
      · subst hwhole
        exact ⟨_, .whole hothers⟩
      by_cases hdigit : c.isDigit = true
      · have hsplit : (c :: more).takeWhile Char.isDigit ++ (c :: more).dropWhile Char.isDigit =
            c :: more := List.takeWhile_append_dropWhile
        obtain ⟨after, hafter⟩ := hread ((c :: more).dropWhile Char.isDigit)
          (List.dropWhile_suffix Char.isDigit).length_le
        rw [← hsplit]
        refine ⟨_, .numbered ?_ ?_ ?_ hafter⟩
        · rw [List.takeWhile_cons_of_pos hdigit]
          exact List.cons_ne_nil _ _
        · exact fun d hd => List.mem_takeWhile_imp hd
        · intro d hd
          have hstop := List.head?_dropWhile_not Char.isDigit (c :: more)
          rw [Option.mem_def.mp hd] at hstop
          simpa using hstop
      by_cases hname : c = '<' ∧ '>' ∈ more
      · obtain ⟨rfl, hclose⟩ := hname
        obtain ⟨name, after, rfl, hname⟩ := List.eq_append_cons_of_mem hclose
        obtain ⟨behind, hbehind⟩ := hread after (by simp; omega)
        exact ⟨_, .named hname hbehind⟩
      · refine ⟨_, .idle ⟨?_, ?_⟩ hpieces⟩
        · intro d hd
          obtain rfl : c = d := by simpa using hd
          exact ⟨hdollar, hwhole, by simpa using hdigit⟩
        · intro hd hclose
          obtain rfl : c = '<' := by simpa using hd
          exact hname ⟨rfl, by simpa using hclose⟩

/-- Every text is a replacement. -/
theorem exists_reads (cs : List Char) : ∃ pieces, Reads cs pieces := by
  induction hn : cs.length using Nat.strong_induction_on generalizing cs with
  | _ n ih =>
      cases cs with
      | nil => exact ⟨_, .empty⟩
      | cons c rest =>
          rw [List.length_cons] at hn
          have hread (more : List Char) (h : more.length ≤ rest.length) :
              ∃ pieces, Reads more pieces := ih more.length (by omega) more rfl
          by_cases hc : c = '$'
          · subst hc
            exact exists_reads_dollar hread
          · obtain ⟨pieces, hpieces⟩ := hread rest (Nat.le_refl _)
            exact ⟨_, .plain hc hpieces⟩

theorem translate_plain {c : Char} (hc : c ≠ '$') :
    translate (c :: rest) = c :: translate rest := by
  rw [translate] <;> simp [hc]

theorem translate_named {name : List Char} (hname : '>' ∉ name) :
    translate ('$' :: '<' :: (name ++ '>' :: rest)) = braced name ++ translate rest := by
  rw [translate]
  split
  · next name' after h =>
    obtain ⟨rfl, rfl⟩ : name = name' ∧ rest = after := by
      simpa [splitAt_append hname] using h
    rfl
  · next h => simp [splitAt_append hname] at h

theorem translate_numbered {digits : List Char} (hne : digits ≠ [])
    (hdigits : ∀ d ∈ digits, d.isDigit = true) (hhead : ∀ c ∈ rest.head?, c.isDigit = false) :
    translate ('$' :: (digits ++ rest)) = braced digits ++ translate rest := by
  obtain ⟨htake, hdrop⟩ := takeWhile_append_of_stop hdigits hhead
  obtain ⟨d, ds, rfl⟩ := List.exists_cons_of_ne_nil hne
  have hd : d.isDigit = true := hdigits d List.mem_cons_self
  rw [translate, htake, hdrop]
  · rfl
  all_goals
    rintro more heq
    obtain rfl : d = _ := (List.cons.inj heq).1
    exact absurd hd (by decide)

theorem translate_idle (h : IsIdle rest) :
    translate ('$' :: rest) = '$' :: '$' :: translate rest := by
  cases rest with
  | nil => simp [translate]
  | cons c more =>
      obtain ⟨hdollar, hwhole, hdigit⟩ := h.head c rfl
      by_cases hopen : c = '<'
      · subst hopen
        have hnone : splitAt '>' more = none :=
          splitAt_eq_none fun hmem => h.unclosed rfl (List.mem_cons_of_mem _ hmem)
        rw [translate]
        split
        · next hsome => simp [hnone] at hsome
        · rfl
      · rw [translate, List.takeWhile_cons_of_neg (by simp [hdigit])]
        · rfl
        all_goals simp [hdollar, hwhole, hopen]

/-- The form in braces is made piece by piece. -/
theorem translate_of_reads (h : Reads cs pieces) : translate cs = pieces.flatMap (·.form) := by
  induction h with
  | empty => rw [translate, List.flatMap_nil]
  | plain hc _ ih => rw [translate_plain hc, ih]; simp [Piece.form, hc]
  | dollar _ ih => rw [translate, ih]; rfl
  | whole _ ih => rw [translate, ih]; rfl
  | numbered hne hdigits hhead _ ih => rw [translate_numbered hne hdigits hhead, ih]; rfl
  | named hname _ ih => rw [translate_named hname, ih]; rfl
  | idle hidle _ ih => rw [translate_idle hidle, ih]; rfl

end Reading

section Expanding

variable {group : List Char → List Char} {rest name : List Char}

theorem expand_plain {c : Char} (hc : c ≠ '$') :
    expand group (c :: rest) = c :: expand group rest := by
  rw [expand] <;> simp [hc]

theorem expand_braced (hname : '\x7d' ∉ name) :
    expand group ('$' :: '\x7b' :: (name ++ '\x7d' :: rest)) = group name ++ expand group rest := by
  rw [expand]
  split
  · next name' after h =>
    obtain ⟨rfl, rfl⟩ : name = name' ∧ rest = after := by
      simpa [splitAt_append hname] using h
    rfl
  · next h => simp [splitAt_append hname] at h

theorem takeWhile_append_close (cs : List Char) :
    (cs ++ '\x7d' :: rest).takeWhile isNameChar = cs.takeWhile isNameChar ∧
      (cs ++ '\x7d' :: rest).dropWhile isNameChar =
        cs.dropWhile isNameChar ++ '\x7d' :: rest := by
  have hclose : ¬ isNameChar '\x7d' = true := by decide
  induction cs with
  | nil => exact ⟨List.takeWhile_cons_of_neg hclose, List.dropWhile_cons_of_neg hclose⟩
  | cons c more ih =>
      by_cases hc : isNameChar c = true
      · simpa [hc] using ih
      · simp [hc]

/-- The name that stands behind a dollar without braces ends at the latest at a closing brace. -/
theorem expand_bare {cs : List Char} (hdollar : cs.head? ≠ some '$')
    (hopen : cs.head? ≠ some '\x7b') :
    expand group ('$' :: (cs ++ '\x7d' :: rest)) =
      if (cs.takeWhile isNameChar).isEmpty then '$' :: expand group (cs ++ '\x7d' :: rest)
      else group (cs.takeWhile isNameChar) ++
        expand group (cs.dropWhile isNameChar ++ '\x7d' :: rest) := by
  have hhead {c : Char} (hc : c ≠ '\x7d') (hne : cs.head? ≠ some c) (more : List Char) :
      cs ++ '\x7d' :: rest ≠ c :: more := by
    intro heq
    cases cs with
    | nil => exact hc (List.cons.inj heq).1.symm
    | cons d ds => exact hne (congrArg some (List.cons.inj heq).1)
  rw [expand, (takeWhile_append_close cs).1, (takeWhile_append_close cs).2]
  · exact fun more => hhead (by decide) hdollar more
  · exact fun more => hhead (by decide) hopen more

/-- Nothing in front of a closing brace reaches beyond it. -/
theorem expand_append_close (cs rest : List Char) :
    expand group (cs ++ '\x7d' :: rest) = expand group (cs ++ ['\x7d']) ++ expand group rest := by
  induction hn : cs.length using Nat.strong_induction_on generalizing cs with
  | _ n ih =>
      cases cs with
      | nil =>
          rw [List.nil_append, List.nil_append, expand_plain (by decide), expand_plain (by decide),
            expand]
          rfl
      | cons c more =>
          rw [List.length_cons] at hn
          have hmore (cs : List Char) (h : cs.length ≤ more.length) :
              expand group (cs ++ '\x7d' :: rest) =
                expand group (cs ++ ['\x7d']) ++ expand group rest := ih cs.length (by omega) cs rfl
          by_cases hc : c = '$'
          · subst hc
            by_cases hdollar : more.head? = some '$'
            · obtain ⟨more, rfl⟩ := List.head?_eq_some_iff.mp hdollar
              simp only [List.cons_append]
              rw [expand, expand, hmore more (Nat.le_succ _), List.cons_append]
            by_cases hopen : more.head? = some '\x7b'
            · obtain ⟨more, rfl⟩ := List.head?_eq_some_iff.mp hopen
              simp only [List.cons_append]
              by_cases hclose : '\x7d' ∈ more
              · -- The brace that closes the name is one of the text in front.
                obtain ⟨name, after, rfl, hname⟩ := List.eq_append_cons_of_mem hclose
                simp only [List.append_assoc, List.cons_append]
                rw [expand_braced hname, expand_braced hname, hmore after (by simp; omega),
                  List.append_assoc]
              · rw [expand_braced hclose, expand_braced hclose, expand, List.append_nil]
            · rw [List.cons_append, List.cons_append, expand_bare hdollar hopen,
                expand_bare hdollar hopen, hmore more (Nat.le_refl _),
                hmore _ (List.dropWhile_suffix isNameChar).length_le]
              split
              · rw [List.cons_append]
              · rw [List.append_assoc]
          · rw [List.cons_append, List.cons_append, expand_plain hc, expand_plain hc,
              hmore more (Nat.le_refl _), List.cons_append]

/-- Every piece of the form is filled in by itself. -/
theorem expand_form_append (piece : Piece) (rest : List Char) :
    expand group (piece.form ++ rest) = expand group piece.form ++ expand group rest := by
  have hbraced (name : List Char) :
      expand group (braced name ++ rest) = expand group (braced name) ++ expand group rest := by
    have hform (after : List Char) :
        braced name ++ after = '$' :: '\x7b' :: name ++ '\x7d' :: after := by simp [braced]
    rw [hform, expand_append_close]
    rfl
  cases piece with
  | plain c =>
      rw [Piece.form]
      split
      · rw [List.cons_append, List.cons_append, List.nil_append, expand, expand, expand]
        rfl
      · next hc =>
        rw [List.singleton_append, expand_plain hc, expand_plain hc, expand]
        rfl
  | whole => exact hbraced ['0']
  | numbered digits => exact hbraced digits
  | named name => exact hbraced name

theorem expand_forms (pieces : List Piece) :
    expand group (pieces.flatMap (·.form)) =
      pieces.flatMap fun piece => expand group piece.form := by
  induction pieces with
  | nil => rw [List.flatMap_nil, List.flatMap_nil, expand]
  | cons piece more ih => rw [List.flatMap_cons, List.flatMap_cons, expand_form_append, ih]

theorem expand_braced_nil (hname : '\x7d' ∉ name) : expand group (braced name) = group name := by
  have hform : braced name = '$' :: '\x7b' :: (name ++ '\x7d' :: []) := by simp [braced]
  rw [hform, expand_braced hname, expand, List.append_nil]

/-- A name that holds a closing brace is taken to end there. -/
theorem expand_braced_cut {after : List Char} (hname : '\x7d' ∉ name) :
    expand group (braced (name ++ '\x7d' :: after)) =
      group name ++ expand group (after ++ ['\x7d']) := by
  have hform : braced (name ++ '\x7d' :: after) =
      '$' :: '\x7b' :: (name ++ '\x7d' :: (after ++ ['\x7d'])) := by simp [braced]
  rw [hform, expand_braced hname]

/-- A piece is filled in with its text, unless a closing brace stands in its name. -/
theorem expand_form {piece : Piece} (h : ∀ name ∈ piece.name?, '\x7d' ∉ name) :
    expand group piece.form = piece.filled group := by
  cases piece with
  | plain c =>
      rw [Piece.form]
      split
      · next hc => rw [expand, expand, hc]; rfl
      · next hc => rw [expand_plain hc, expand]; rfl
  | whole => exact expand_braced_nil (h _ rfl)
  | numbered digits => exact expand_braced_nil (h _ rfl)
  | named name => exact expand_braced_nil (h _ rfl)

end Expanding

section Filling

variable {group : List Char → List Char} {cs name digits : List Char} {pieces : List Piece}

theorem Reads.numbered_digits (h : Reads cs pieces) (hdigits : .numbered digits ∈ pieces) :
    digits ≠ [] ∧ ∀ d ∈ digits, d.isDigit = true := by
  induction h with
  | empty => cases hdigits
  | numbered hne hall _ _ ih =>
      rcases List.mem_cons.mp hdigits with heq | hdigits
      · cases heq
        exact ⟨hne, hall⟩
      · exact ih hdigits
  | _ => simp_all

theorem Piece.filled_of_name {piece : Piece} (h : piece.name? = some name) :
    piece.filled group = group name := by
  cases piece <;> cases h <;> rfl

/-- What a piece is filled in with is its text, or it has none. -/
theorem expand_form_or (hgroup : ∀ name, '\x7d' ∈ name → group name = []) (piece : Piece) :
    expand group piece.form = piece.filled group ∨ piece.filled group = [] := by
  by_cases hclose : ∀ name ∈ piece.name?, '\x7d' ∉ name
  · exact .inl (expand_form hclose)
  · push Not at hclose
    obtain ⟨name, hname, hclose⟩ := hclose
    exact .inr ((Piece.filled_of_name hname).trans (hgroup name hclose))

theorem length_flatMap_le {f g : Piece → List Char}
    (h : ∀ piece, g piece = f piece ∨ f piece = []) :
    (pieces.flatMap f).length ≤ (pieces.flatMap g).length := by
  induction pieces with
  | nil => exact Nat.le_refl _
  | cons piece more ih =>
      rw [List.flatMap_cons, List.flatMap_cons, List.length_append, List.length_append]
      rcases h piece with heq | hnil
      · rw [heq]
        exact Nat.add_le_add_left ih _
      · rw [hnil, List.length_nil]
        omega

theorem flatMap_eq_iff {f g : Piece → List Char} (h : ∀ piece, g piece = f piece ∨ f piece = []) :
    pieces.flatMap g = pieces.flatMap f ↔ ∀ piece ∈ pieces, g piece = f piece := by
  refine ⟨fun heq => ?_, List.flatMap_congr⟩
  induction pieces with
  | nil => exact List.forall_mem_nil _
  | cons piece more ih =>
      rw [List.flatMap_cons, List.flatMap_cons] at heq
      have hpiece : g piece = f piece := by
        refine (h piece).elim id fun hnil => ?_
        -- The others are no shorter than they should be, so that nothing is left for this one.
        have hle : (more.flatMap f).length ≤ (more.flatMap g).length := length_flatMap_le h
        have hlen := congrArg List.length heq
        rw [List.length_append, hnil, List.nil_append] at hlen
        rw [hnil]
        exact List.eq_nil_of_length_eq_zero (by omega)
      rw [hpiece] at heq
      exact List.forall_mem_cons.mpr ⟨hpiece, ih (List.append_cancel_left heq)⟩

theorem close_not_mem_of_isDigit (h : ∀ d ∈ digits, d.isDigit = true) : '\x7d' ∉ digits :=
  fun hclose => absurd (h _ hclose) (by decide)

/-- A replacement is filled in as it reads if the form of every name that holds a closing brace
comes to nothing. -/
theorem expand_translate_iff (hgroup : ∀ name, '\x7d' ∈ name → group name = [])
    (h : Reads cs pieces) :
    expand group (translate cs) = pieces.flatMap (·.filled group) ↔
      ∀ name, .named name ∈ pieces → '\x7d' ∈ name → expand group (braced name) = [] := by
  rw [translate_of_reads h, expand_forms, flatMap_eq_iff (expand_form_or hgroup)]
  constructor
  · intro hall name hname hclose
    exact (hall _ hname).trans (hgroup name hclose)
  · intro hall piece hpiece
    by_cases hclose : ∀ name ∈ piece.name?, '\x7d' ∉ name
    · exact expand_form hclose
    · push Not at hclose
      obtain ⟨name, hname, hclose⟩ := hclose
      cases piece with
      | plain c => cases hname
      | whole =>
          cases hname
          exact absurd hclose (by decide)
      | numbered digits =>
          cases hname
          exact absurd hclose (close_not_mem_of_isDigit (h.numbered_digits hpiece).2)
      | named name =>
          cases hname
          exact (hall name hpiece hclose).trans (hgroup name hclose).symm

/-- Only without closing braces in names is a replacement filled in as it reads whatever the
groups are. -/
theorem forall_expand_translate_iff (h : Reads cs pieces) :
    (∀ group : List Char → List Char, (∀ name, '\x7d' ∈ name → group name = []) →
      expand group (translate cs) = pieces.flatMap (·.filled group)) ↔
      ∀ name, .named name ∈ pieces → '\x7d' ∉ name := by
  constructor
  · intro hall name hname hclose
    obtain ⟨front, after, rfl, hfront⟩ := List.eq_append_cons_of_mem hclose
    -- A group that is named as the text in front of the brace is filled in for it.
    let group (other : List Char) : List Char := if other = front then ['x'] else []
    have hgroup : ∀ other, '\x7d' ∈ other → group other = [] := by
      intro other hother
      have hne : other ≠ front := fun heq => hfront (heq ▸ hother)
      exact if_neg hne
    have hnil := (expand_translate_iff hgroup h).mp (hall group hgroup) _ hname hclose
    rw [expand_braced_cut hfront, show group front = ['x'] from if_pos rfl] at hnil
    cases hnil
  · intro hall group hgroup
    exact (expand_translate_iff hgroup h).mpr fun name hname hclose =>
      absurd hclose (hall name hname)

end Filling

end Newswire.Pattern.Replacement
