import Mathlib.Data.List.Infix
import Newswire.Message.Template
import Newswire.Proofs.Text.Blanks

/-!
# Placeholders

A placeholder ends at the first pair of closing braces, and its alternatives are parted at every
pair of bars. Blanks in front of an alternative are passed over if it names a field, or if it is the
first one. A literal behind bars has to stand directly behind them: after a blank it is taken for
the name of a field.
-/

namespace Newswire.Message.Template

/-- The text can stand in front of a pair of the sign, so that this pair is the first one. -/
structure StandsBefore (sign : Char) (text : List Char) : Prop where
  clear : ¬ [sign, sign] <:+: text
  last : text.getLast? ≠ some sign

instance (sign : Char) (text : List Char) : Decidable (StandsBefore sign text) :=
  decidable_of_iff (¬ [sign, sign] <:+: text ∧ text.getLast? ≠ some sign)
    ⟨fun h => ⟨h.1, h.2⟩, fun h => ⟨h.clear, h.last⟩⟩

section StandsBefore

variable {sign c : Char} {text : List Char}

theorem not_pair_infix_cons_iff :
    ¬ [sign, sign] <:+: c :: text ↔
      ¬ (c = sign ∧ text.head? = some sign) ∧ ¬ [sign, sign] <:+: text := by
  rw [List.infix_cons_iff, not_or, List.cons_prefix_cons, eq_comm]
  cases text with
  | nil => simp
  | cons d rest => simp [eq_comm]

theorem standsBefore_nil : StandsBefore sign [] := ⟨by simp, by simp⟩

/-- A character may be put in front unless it makes a pair with what follows. -/
theorem standsBefore_cons_iff :
    StandsBefore sign (c :: text) ↔
      ¬ (c = sign ∧ (text ++ [sign]).head? = some sign) ∧ StandsBefore sign text := by
  constructor
  · rintro ⟨hclear, hlast⟩
    obtain ⟨hpair, hclear⟩ := not_pair_infix_cons_iff.mp hclear
    cases text with
    | nil => exact ⟨fun h => hlast (by simp [h.1]), standsBefore_nil⟩
    | cons d rest => exact ⟨hpair, hclear, by simpa using hlast⟩
  · rintro ⟨hpair, hclear, hlast⟩
    cases text with
    | nil => exact ⟨not_pair_infix_cons_iff.mpr ⟨by simp, by simp⟩, by simpa using hpair⟩
    | cons d rest => exact ⟨not_pair_infix_cons_iff.mpr ⟨hpair, hclear⟩, by simpa using hlast⟩

theorem StandsBefore.suffix {more : List Char} (h : StandsBefore sign text)
    (hmore : more <:+ text) : StandsBefore sign more := by
  obtain ⟨front, rfl⟩ := hmore
  induction front with
  | nil => exact h
  | cons d rest ih => exact ih (standsBefore_cons_iff.mp h).2

/-- Nothing is changed by what holds none of the signs. -/
theorem StandsBefore.insert {before gap after : List Char}
    (h : StandsBefore sign (before ++ after)) (hgap : sign ∉ gap) :
    StandsBefore sign (before ++ (gap ++ after)) := by
  induction before with
  | nil =>
      induction gap with
      | nil => exact h
      | cons d rest ih =>
          obtain ⟨hd, hrest⟩ := List.ne_and_not_mem_of_not_mem_cons hgap
          exact standsBefore_cons_iff.mpr ⟨fun hpair => hd hpair.1.symm, ih hrest⟩
  | cons d rest ih =>
      obtain ⟨hpair, hrest⟩ := standsBefore_cons_iff.mp h
      refine standsBefore_cons_iff.mpr ⟨?_, ih hrest⟩
      rintro ⟨rfl, hhead⟩
      apply hpair
      refine ⟨rfl, ?_⟩
      cases rest with
      | cons e more => simpa using hhead
      | nil =>
          cases gap with
          | nil => simpa using hhead
          | cons e more =>
              obtain rfl : e = d := by simpa using hhead
              exact absurd List.mem_cons_self hgap

end StandsBefore

/-- An accessor between braces. -/
def enclosed (accessor : List Char) : List Char :=
  '\x7b' :: '\x7b' :: (accessor ++ ['\x7d', '\x7d'])

/-- The bars between alternatives. -/
def bars : List Char := ['|', '|']

section Close

variable {accessor : List Char}

theorem cutAtClose_cons {c : Char} {cs : List Char}
    (h : ¬ (c = '\x7d' ∧ cs.head? = some '\x7d')) :
    cutAtClose (c :: cs) = (cutAtClose cs).map fun p => (c :: p.1, p.2) := by
  rw [cutAtClose]
  rintro rest rfl rfl
  exact h ⟨rfl, rfl⟩

theorem cutAtClose_append (h : StandsBefore '\x7d' accessor) (after : List Char) :
    cutAtClose (accessor ++ '\x7d' :: '\x7d' :: after) = some (accessor, after) := by
  induction accessor with
  | nil => rw [List.nil_append, cutAtClose]
  | cons c rest ih =>
      obtain ⟨hpair, hrest⟩ := standsBefore_cons_iff.mp h
      rw [List.cons_append, cutAtClose_cons, ih hrest]
      · rfl
      · cases rest with
        | nil => simpa using hpair
        | cons d more => simpa using hpair

/-- A placeholder is read up to the braces that close it. -/
theorem parse_enclosed (h : StandsBefore '\x7d' accessor) (fallbacks : Bool) (after : List Char) :
    parse fallbacks (enclosed accessor ++ after) =
      .placeholder (sourcesOf fallbacks accessor) :: parse fallbacks after := by
  have hcut := cutAtClose_append h after
  simp only [enclosed, List.cons_append, List.append_assoc, List.nil_append]
  rw [parse]
  split
  · next hsome =>
    obtain ⟨rfl, rfl⟩ : accessor = _ ∧ after = _ := by simpa [hcut] using hsome
    rfl
  · next hnone => simp [hcut] at hnone

end Close

section Alternatives

variable {part : List Char}

theorem alternatives_ne_nil (cs : List Char) : alternatives cs ≠ [] := by
  fun_cases alternatives cs with
  | case1 => simp
  | case2 => simp
  | case3 => simp
  | case4 => simp

theorem alternatives_cons {c : Char} {cs : List Char} (h : ¬ (c = '|' ∧ cs.head? = some '|')) :
    ∃ first more, alternatives cs = first :: more ∧
      alternatives (c :: cs) = (c :: first) :: more := by
  obtain ⟨first, more, hcs⟩ := List.exists_cons_of_ne_nil (alternatives_ne_nil cs)
  refine ⟨first, more, hcs, ?_⟩
  rw [alternatives, hcs]
  rintro rest rfl rfl
  exact h ⟨rfl, rfl⟩

theorem alternatives_append (h : StandsBefore '|' part) (after : List Char) :
    alternatives (part ++ '|' :: '|' :: after) = part :: alternatives after := by
  induction part with
  | nil => rw [List.nil_append, alternatives]
  | cons c rest ih =>
      obtain ⟨hpair, hrest⟩ := standsBefore_cons_iff.mp h
      have hhead : ¬ (c = '|' ∧ (rest ++ '|' :: '|' :: after).head? = some '|') := by
        cases rest with
        | nil => simpa using hpair
        | cons d more => simpa using hpair
      obtain ⟨first, more, hfirst, hcons⟩ := alternatives_cons hhead
      obtain ⟨rfl, rfl⟩ : rest = first ∧ alternatives after = more := by
        simpa [ih hrest] using hfirst
      exact hcons

/-- What holds no pair of bars is the only alternative. -/
theorem alternatives_of_clear (h : ¬ bars <:+: part) : alternatives part = [part] := by
  induction part with
  | nil => rfl
  | cons c rest ih =>
      obtain ⟨hpair, hrest⟩ := not_pair_infix_cons_iff.mp h
      obtain ⟨first, more, hfirst, hcons⟩ := alternatives_cons hpair
      obtain ⟨rfl, rfl⟩ : rest = first ∧ [] = more := by simpa [ih hrest] using hfirst
      exact hcons

/-- Alternatives with the bars behind each of them. -/
def led (parts : List (List Char)) : List Char := parts.flatMap (· ++ bars)

theorem alternatives_led {parts : List (List Char)} (h : ∀ part ∈ parts, StandsBefore '|' part)
    (after : List Char) : alternatives (led parts ++ after) = parts ++ alternatives after := by
  induction parts with
  | nil => rfl
  | cons part rest ih =>
      obtain ⟨hpart, hrest⟩ := List.forall_mem_cons.mp h
      have hled : led (part :: rest) ++ after = part ++ '|' :: '|' :: (led rest ++ after) := by
        simp [led, bars]
      rw [hled, alternatives_append hpart, ih hrest, List.cons_append]

/-- Blanks in front of a text stand in front of its first alternative. -/
theorem alternatives_gap {gap : List Char} (hgap : '|' ∉ gap) (cs : List Char) :
    ∃ first more, alternatives cs = first :: more ∧
      alternatives (gap ++ cs) = (gap ++ first) :: more := by
  induction gap with
  | nil =>
      obtain ⟨first, more, hcs⟩ := List.exists_cons_of_ne_nil (alternatives_ne_nil cs)
      exact ⟨first, more, hcs, hcs⟩
  | cons c rest ih =>
      obtain ⟨hc, hrest⟩ := List.ne_and_not_mem_of_not_mem_cons hgap
      obtain ⟨first, more, hcs, hgap⟩ := ih hrest
      have hopen : ¬ (c = '|' ∧ (rest ++ cs).head? = some '|') := fun h => hc h.1.symm
      obtain ⟨first', more', hfirst, hcons⟩ := alternatives_cons hopen
      obtain ⟨rfl, rfl⟩ : rest ++ first = first' ∧ more = more' := by simpa [hgap] using hfirst
      exact ⟨first, more, hcs, hcons⟩

/-- What holds no bar stands in front of a text as it stands in front of its first alternative. -/
theorem prefix_first_iff {mark cs first : List Char} {more : List (List Char)}
    (hmark : '|' ∉ mark) (h : alternatives cs = first :: more) : mark <+: first ↔ mark <+: cs := by
  induction mark generalizing cs first more with
  | nil => simp
  | cons a mark ih =>
      obtain ⟨ha, hmark⟩ := List.ne_and_not_mem_of_not_mem_cons hmark
      cases cs with
      | nil =>
          obtain ⟨rfl, -⟩ : [] = first ∧ [] = more := by simpa [alternatives] using h
          rfl
      | cons c rest =>
          by_cases hpair : c = '|' ∧ rest.head? = some '|'
          · obtain ⟨rfl, hhead⟩ := hpair
            obtain ⟨rest, rfl⟩ := List.head?_eq_some_iff.mp hhead
            obtain ⟨rfl, -⟩ : [] = first ∧ alternatives rest = more := by
              simpa [alternatives] using h
            simp [List.cons_prefix_cons, Ne.symm ha]
          · obtain ⟨first', more', hrest, hcons⟩ := alternatives_cons hpair
            obtain ⟨rfl, rfl⟩ : c :: first' = first ∧ more' = more := by simpa [hcons] using h
            rw [List.cons_prefix_cons, List.cons_prefix_cons, ih hmark hrest]

end Alternatives

section Sources

variable {gap part : List Char}

theorem sourceOf_literal (text : List Char) : sourceOf (literalMark ++ text) = .literal text := by
  rw [sourceOf, List.isPrefixOf?_eq_some_iff_append_eq.mpr rfl]

theorem sourceOf_field (h : ¬ literalMark <+: part) : sourceOf part = .field (Text.trim part) := by
  rw [sourceOf]
  split
  · next literal hsome =>
    exact absurd ⟨literal, List.isPrefixOf?_eq_some_iff_append_eq.mp hsome⟩ h
  · rfl

theorem not_literalMark_prefix_gap (hgap : Text.AllBlank gap) (hne : gap ≠ []) :
    ¬ literalMark <+: gap ++ part := by
  obtain ⟨c, rest, rfl⟩ := List.exists_cons_of_ne_nil hne
  intro h
  obtain ⟨rfl, -⟩ := List.cons_prefix_cons.mp h
  exact absurd (hgap _ List.mem_cons_self) (by decide)

/-- Blanks in front of an alternative change its source exactly if it is a literal. -/
theorem sourceOf_gap_iff (hgap : Text.AllBlank gap) :
    sourceOf (gap ++ part) = sourceOf part ↔ gap = [] ∨ ¬ literalMark <+: part := by
  by_cases hne : gap = []
  · simp [hne]
  · rw [sourceOf_field (not_literalMark_prefix_gap hgap hne), Text.trim_append_of_isBlank hgap]
    by_cases hmark : literalMark <+: part
    · obtain ⟨text, rfl⟩ := hmark
      simp [sourceOf_literal, hne]
    · simp [sourceOf_field hmark, hmark]

theorem literalMark_prefix_trimEnd_iff :
    literalMark <+: Text.trimEnd part ↔ literalMark <+: part := by
  constructor
  · exact fun h => h.trans Text.trimEnd_prefix
  · rintro ⟨text, rfl⟩
    -- The mark ends with a colon, at which trimming stops.
    have hmark : literalMark ++ text = ['t', 'e', 'x', 't', ':'] ++ ':' :: text := rfl
    rw [hmark, Text.trimEnd_append_cons (by decide)]
    exact ⟨_, rfl⟩

end Sources

section Gaps

variable {firsts : List (List Char)} {gap after : List Char}

theorem trimEnd_led (parts : List (List Char)) (cs : List Char) :
    Text.trimEnd ('|' :: (led parts ++ cs)) = '|' :: (led parts ++ Text.trimEnd cs) := by
  induction parts with
  | nil =>
      rw [led, List.flatMap_nil, List.nil_append, List.nil_append, ← List.nil_append ('|' :: cs),
        Text.trimEnd_append_cons (by decide), List.nil_append]
  | cons part rest ih =>
      have hled (cs : List Char) :
          '|' :: (led (part :: rest) ++ cs) =
            '|' :: (part ++ ['|']) ++ '|' :: (led rest ++ cs) := by
        simp [led, bars]
      rw [hled, Text.trimEnd_append, ih, hled]
      rw [ih]
      exact List.cons_ne_nil _ _

/-- Trimming an accessor touches its first alternative in front and its last one behind. -/
theorem sourcesOf_led {first : List Char} {rest : List (List Char)}
    (h : ∀ part ∈ first :: rest, StandsBefore '|' part) (cs : List Char) :
    sourcesOf true (led (first :: rest) ++ cs) =
      (Text.trimStart first :: rest).map sourceOf ++
        (alternatives (Text.trimEnd cs)).map sourceOf := by
  obtain ⟨hfirst, hrest⟩ := List.forall_mem_cons.mp h
  have htrim : Text.trim (led (first :: rest) ++ cs) =
      led (Text.trimStart first :: rest) ++ Text.trimEnd cs := by
    have hled (first cs : List Char) :
        led (first :: rest) ++ cs = first ++ '|' :: '|' :: (led rest ++ cs) := by
      simp [led, bars]
    rw [hled, Text.trim_append_cons (by decide), trimEnd_led, hled]
  have hstart : StandsBefore '|' (Text.trimStart first) :=
    hfirst.suffix (List.dropWhile_suffix Text.isBlank)
  rw [sourcesOf, if_pos rfl, htrim, alternatives_led (List.forall_mem_cons.mpr ⟨hstart, hrest⟩),
    List.map_append]

/-- Blanks behind bars are part of the alternative there, unless nothing but blanks follows. -/
theorem alternatives_trimEnd_gap (hgap : Text.AllBlank gap) (hafter : Text.trimEnd after ≠ []) :
    ∃ part parts, alternatives (Text.trimEnd after) = part :: parts ∧
      alternatives (Text.trimEnd (gap ++ after)) = (gap ++ part) :: parts ∧
        (literalMark <+: part ↔ literalMark <+: after) := by
  have hbars : '|' ∉ gap := fun hmem => absurd (hgap _ hmem) (by decide)
  obtain ⟨part, parts, hplain, hspaced⟩ := alternatives_gap hbars (Text.trimEnd after)
  rw [Text.trimEnd_append hafter]
  exact ⟨part, parts, hplain, hspaced,
    (prefix_first_iff (by decide) hplain).trans literalMark_prefix_trimEnd_iff⟩

theorem trimEnd_ne_nil_of_literalMark (h : literalMark <+: after) : Text.trimEnd after ≠ [] := by
  intro hnil
  rw [← literalMark_prefix_trimEnd_iff, hnil] at h
  exact absurd h (by decide)

/-- Behind bars, blanks change the sources exactly if a literal follows. -/
theorem map_sourceOf_gap_iff (hgap : Text.AllBlank gap) :
    (alternatives (Text.trimEnd (gap ++ after))).map sourceOf =
        (alternatives (Text.trimEnd after)).map sourceOf ↔
      gap = [] ∨ ¬ literalMark <+: after := by
  by_cases hafter : Text.trimEnd after = []
  · have hall : Text.trimEnd (gap ++ after) = [] := by
      rw [Text.trimEnd_eq_nil_iff] at hafter ⊢
      exact fun c hc => (List.mem_append.mp hc).elim (hgap c) (hafter c)
    have hmark : ¬ literalMark <+: after := fun h => trimEnd_ne_nil_of_literalMark h hafter
    simp [hall, hafter, hmark]
  · obtain ⟨part, parts, hplain, hspaced, hmark⟩ := alternatives_trimEnd_gap hgap hafter
    rw [hplain, hspaced, List.map_cons, List.map_cons, List.cons_eq_cons, sourceOf_gap_iff hgap,
      hmark]
    simp

/-- A literal becomes a field when blanks are put between it and the bars. -/
theorem map_sourceOf_gap_literal (hgap : Text.AllBlank gap) (hne : gap ≠ [])
    (hmark : literalMark <+: after) :
    ∃ text more,
      (alternatives (Text.trimEnd after)).map sourceOf = .literal text :: more ∧
        (alternatives (Text.trimEnd (gap ++ after))).map sourceOf =
          .field (Text.trim (literalMark ++ text)) :: more := by
  obtain ⟨part, parts, hplain, hspaced, hiff⟩ :=
    alternatives_trimEnd_gap hgap (trimEnd_ne_nil_of_literalMark hmark)
  obtain ⟨text, rfl⟩ := hiff.mpr hmark
  refine ⟨text, parts.map sourceOf, ?_, ?_⟩
  · rw [hplain, List.map_cons, sourceOf_literal]
  · rw [hspaced, List.map_cons, sourceOf_field (not_literalMark_prefix_gap hgap hne),
      Text.trim_append_of_isBlank hgap]

/-- Blanks put in front of an alternative change its placeholder exactly if the alternative is a
literal and not the first one. Such a literal is then taken for a field. -/
theorem parse_gap_iff (after rest gap : List Char) (firsts : List (List Char))
    (hfirsts : ∀ part ∈ firsts, StandsBefore '|' part)
    (hclose : StandsBefore '\x7d' (led firsts ++ after)) (hgap : Text.AllBlank gap) :
    let plain := parse true (enclosed (led firsts ++ after) ++ rest)
    let spaced := parse true (enclosed (led firsts ++ (gap ++ after)) ++ rest)
    (spaced = plain ↔ gap = [] ∨ firsts = [] ∨ ¬ literalMark <+: after) ∧
      (spaced ≠ plain → ∃ before text more,
        plain = .placeholder (before ++ .literal text :: more) :: parse true rest ∧
          spaced = .placeholder (before ++ .field (Text.trim (literalMark ++ text)) :: more) ::
            parse true rest) := by
  intro plain spaced
  have hbrace : '\x7d' ∉ gap := fun hmem => absurd (hgap _ hmem) (by decide)
  have hplain : plain = .placeholder (sourcesOf true (led firsts ++ after)) :: parse true rest :=
    parse_enclosed hclose true rest
  have hspaced : spaced =
      .placeholder (sourcesOf true (led firsts ++ (gap ++ after))) :: parse true rest :=
    parse_enclosed (hclose.insert hbrace) true rest
  have hsame : spaced = plain ↔
      sourcesOf true (led firsts ++ (gap ++ after)) = sourcesOf true (led firsts ++ after) := by
    simp [hplain, hspaced]
  rw [ne_eq, hsame]
  cases firsts with
  | nil =>
      have htrim : Text.trim (gap ++ after) = Text.trim after := Text.trim_append_of_isBlank hgap
      simp [led, sourcesOf, htrim]
  | cons first others =>
      rw [sourcesOf_led hfirsts, sourcesOf_led hfirsts, List.append_cancel_left_eq,
        map_sourceOf_gap_iff hgap]
      refine ⟨by simp, fun hchanged => ?_⟩
      push Not at hchanged
      obtain ⟨text, more, hliteral, hfield⟩ :=
        map_sourceOf_gap_literal hgap hchanged.1 hchanged.2
      refine ⟨(Text.trimStart first :: others).map sourceOf, text, more, ?_, ?_⟩
      · rw [hplain, sourcesOf_led hfirsts, hliteral]
      · rw [hspaced, sourcesOf_led hfirsts, hfield]

end Gaps

/-- The literal of the placeholder `a||text::b`, with a blank in front of it. -/
theorem gap_before_literal :
    (∀ part ∈ [['a']], StandsBefore '|' part) ∧
      StandsBefore '\x7d' (led [['a']] ++ "text::b".toList) ∧ Text.AllBlank [' '] ∧
        ¬ parse true (enclosed (led [['a']] ++ ([' '] ++ "text::b".toList)) ++ []) =
          parse true (enclosed (led [['a']] ++ "text::b".toList) ++ []) := by
  have hfirsts : ∀ part ∈ [['a']], StandsBefore '|' part := by decide
  have hclose : StandsBefore '\x7d' (led [['a']] ++ "text::b".toList) := by decide
  have hgap : Text.AllBlank [' '] := by decide
  refine ⟨hfirsts, hclose, hgap, fun h => ?_⟩
  have hcases := (parse_gap_iff "text::b".toList [] [' '] [['a']] hfirsts hclose hgap).1.mp h
  exact absurd hcases (by decide)

/-- With a blank behind the bars the literal is not found. -/
theorem spacedLiteral_lost :
    parse true "\x7b\x7ba|| text::b\x7d\x7d".toList ≠
        parse true "\x7b\x7ba||text::b\x7d\x7d".toList ∧
      fill true .empty "\x7b\x7ba|| text::b\x7d\x7d" = [] ∧
        fill true .empty "\x7b\x7ba||text::b\x7d\x7d" = ['b'] := by
  decide +kernel

end Newswire.Message.Template
