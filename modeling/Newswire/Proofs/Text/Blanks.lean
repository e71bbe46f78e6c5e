import Mathlib.Data.List.TakeWhile
import Newswire.Text.Blank

/-!
# Texts and their blanks

What trimming leaves of a text starts with a character that is not blank, unless it leaves nothing.
Blanks in front of a text are lost in trimming, and those inside it are not. The words of a text
hold no blanks.
-/

namespace Newswire

namespace Text

variable {cs : List Char}

/-- A text of blanks alone. -/
def AllBlank (cs : List Char) : Prop := ∀ c ∈ cs, isBlank c = true

instance (cs : List Char) : Decidable (AllBlank cs) :=
  decidable_of_iff (cs.all isBlank = true) List.all_eq_true

theorem not_isBlank_head_trimStart {c : Char} (h : c ∈ (trimStart cs).head?) :
    isBlank c = false := by
  have hhead := List.head?_dropWhile_not isBlank cs
  rw [← trimStart, Option.mem_def.mp h] at hhead
  simpa using hhead

/-- Trimming leaves nothing only of a blank text. -/
theorem trim_eq_nil_iff : trim cs = [] ↔ ∀ c ∈ cs, isBlank c = true := by
  rw [trim, trimEnd, List.reverse_eq_nil_iff, List.dropWhile_eq_nil_iff]
  simp only [List.mem_reverse]
  constructor
  · intro h
    apply List.dropWhile_eq_nil_iff.mp
    cases hstart : trimStart cs with
    | nil => exact hstart
    | cons c rest =>
        have hhead : c ∈ (trimStart cs).head? := by rw [hstart]; rfl
        have hblank := h c (List.mem_of_mem_head? hhead)
        rw [not_isBlank_head_trimStart hhead] at hblank
        cases hblank
  · intro h c hc
    exact h c ((List.dropWhile_suffix isBlank).subset hc)

theorem trim_ne_nil_iff : trim cs ≠ [] ↔ ∃ c ∈ cs, isBlank c = false := by
  simp [trim_eq_nil_iff]

theorem trimEnd_prefix : trimEnd cs <+: cs := by
  rw [← List.reverse_suffix, trimEnd, List.reverse_reverse]
  exact List.dropWhile_suffix isBlank

/-- What trimming leaves starts with a character that is not blank. -/
theorem not_isBlank_head_trim {c : Char} (h : c ∈ (trim cs).head?) : isBlank c = false := by
  apply not_isBlank_head_trimStart
  obtain ⟨rest, hrest⟩ := List.head?_eq_some_iff.mp (Option.mem_def.mp h)
  obtain ⟨more, hmore⟩ : trim cs <+: trimStart cs := trimEnd_prefix
  rw [← hmore, hrest]
  rfl

section Trim

variable {gap : List Char}

theorem trim_append_of_isBlank (hgap : ∀ c ∈ gap, isBlank c = true) :
    trim (gap ++ cs) = trim cs := by
  rw [trim, trimStart, List.dropWhile_append, List.dropWhile_eq_nil_iff.mpr hgap]
  rfl

theorem trimStart_append_cons {before after : List Char} {c : Char} (hc : isBlank c = false) :
    trimStart (before ++ c :: after) = trimStart before ++ c :: after := by
  rw [trimStart, trimStart, List.dropWhile_append]
  split
  · next h => simp [hc, List.isEmpty_iff.mp h]
  · rfl

theorem trimEnd_append_cons {before after : List Char} {c : Char} (hc : isBlank c = false) :
    trimEnd (before ++ c :: after) = before ++ c :: trimEnd after := by
  have hreverse : (before ++ c :: after).reverse = after.reverse ++ c :: before.reverse := by simp
  rw [trimEnd, trimEnd, hreverse, List.dropWhile_append]
  split
  · next h => simp [hc, List.isEmpty_iff.mp h]
  · simp

/-- Trimming stops at a character that is not blank, from either side. -/
theorem trim_append_cons {before after : List Char} {c : Char} (hc : isBlank c = false) :
    trim (before ++ c :: after) = trimStart before ++ c :: trimEnd after := by
  rw [trim, trimStart_append_cons hc, trimEnd_append_cons hc]

theorem trimEnd_eq_nil_iff : trimEnd cs = [] ↔ ∀ c ∈ cs, isBlank c = true := by
  simp [trimEnd]

/-- A text that is not blank keeps what stands in front of it. -/
theorem trimEnd_append (h : trimEnd cs ≠ []) : trimEnd (gap ++ cs) = gap ++ trimEnd cs := by
  rw [trimEnd, List.reverse_append, List.dropWhile_append, if_neg]
  · simp [trimEnd]
  · simpa [trimEnd] using h

/-- A text without blanks at its ends. -/
structure IsTrimmed (cs : List Char) : Prop where
  head : ∀ c ∈ cs.head?, isBlank c = false
  last : ∀ c ∈ cs.getLast?, isBlank c = false

theorem isTrimmed_iff :
    IsTrimmed cs ↔ cs.head?.any isBlank = false ∧ cs.getLast?.any isBlank = false := by
  rw [Option.any_eq_false, Option.any_eq_false]
  exact ⟨fun h => ⟨by simpa using h.head, by simpa using h.last⟩,
    fun h => ⟨by simpa using h.1, by simpa using h.2⟩⟩

instance (cs : List Char) : Decidable (IsTrimmed cs) := decidable_of_iff _ isTrimmed_iff.symm

theorem IsTrimmed.trim_eq (h : IsTrimmed cs) : trim cs = cs := by
  have hstart : trimStart cs = cs := by
    cases cs with
    | nil => rfl
    | cons c rest => exact List.dropWhile_cons_of_neg (by simpa using h.head c rfl)
  rw [trim, hstart, trimEnd, List.reverse_eq_iff]
  cases hreversed : cs.reverse with
  | nil => rfl
  | cons c rest =>
      have hlast : c ∈ cs.getLast? := by rw [List.getLast?_eq_head?_reverse, hreversed]; rfl
      exact List.dropWhile_cons_of_neg (by simpa using h.last c hlast)

end Trim

theorem not_isBlank_of_mem_go {run : List Char} (hrun : ∀ c ∈ run, isBlank c = false) :
    ∀ w ∈ words.go run cs, ∀ c ∈ w, isBlank c = false := by
  induction cs generalizing run with
  | nil =>
      rw [words.go]
      split
      · simp
      · simpa using hrun
  | cons c rest ih =>
      have hrest : ∀ w ∈ words.go [] rest, ∀ c ∈ w, isBlank c = false := ih (by simp)
      rw [words.go]
      split
      · split
        · exact hrest
        · exact List.forall_mem_cons.mpr ⟨by simpa using hrun, hrest⟩
      · next hc => exact ih (List.forall_mem_cons.mpr ⟨Bool.eq_false_iff.mpr hc, hrun⟩)

theorem not_isBlank_of_mem_words {w : List Char} (hw : w ∈ words cs) :
    ∀ c ∈ w, isBlank c = false :=
  not_isBlank_of_mem_go (by simp) w hw

theorem go_eq_nil_iff {run : List Char} :
    words.go run cs = [] ↔ run = [] ∧ ∀ c ∈ cs, isBlank c = true := by
  induction cs generalizing run with
  | nil =>
      rw [words.go]
      split
      · next h => simp [List.isEmpty_iff.mp h]
      · next h => simpa using h
  | cons c rest ih =>
      rw [words.go]
      split
      · next hc =>
        split
        · next h => simp [List.isEmpty_iff.mp h, ih, hc]
        · next h => simpa using fun hrun => absurd hrun (by simpa using h)
      · next hc => simp [ih, hc]

/-- Only a blank text has no words. -/
theorem words_eq_nil_iff : words cs = [] ↔ ∀ c ∈ cs, isBlank c = true := by
  rw [words, go_eq_nil_iff]
  simp

/-- Words that are joined without blanks hold none together. -/
theorem not_isBlank_of_mem_intercalate {joint : List Char} {ws : List (List Char)}
    (hjoint : ∀ c ∈ joint, isBlank c = false) (hws : ∀ w ∈ ws, ∀ c ∈ w, isBlank c = false) :
    ∀ c ∈ joint.intercalate ws, isBlank c = false := by
  induction ws with
  | nil => simp
  | cons w rest ih =>
      obtain ⟨hw, hrest⟩ := List.forall_mem_cons.mp hws
      cases rest with
      | nil => simpa using hw
      | cons w' rest =>
          rw [List.intercalate_cons_cons]
          simp only [List.forall_mem_append]
          exact ⟨⟨hw, hjoint⟩, ih hrest⟩

end Text

theorem shows_ofList_iff {cs : List Char} :
    shows (String.ofList cs) = true ↔ ∃ c ∈ cs, Text.isBlank c = false := by
  simp [shows]

end Newswire
