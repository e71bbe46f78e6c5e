import Mathlib.Data.List.Basic
import Newswire.Rule.Basic

/-!
# Paths in rules

A path is followed from the root of a rule, step by step, to one of its parts. The text of a path
tells all of its steps, so that parts in different places have different texts.
-/

namespace Newswire.Rule

/-- The part to which a step leads, if there is one. -/
def part : Rule → Step → Option Rule
  | group _ rules, .item index => rules[index]?
  | negation rule, .inner => some rule
  | _, _ => none

/-- The part to which a path leads from the root. -/
def follow (rule : Rule) (p : Path) : Option Rule := p.foldlM part rule

@[simp] theorem follow_nil (rule : Rule) : rule.follow [] = some rule := rfl

@[simp] theorem follow_cons (rule : Rule) (s : Step) (p : Path) :
    rule.follow (s :: p) = (rule.part s).bind (follow · p) := rfl

/-- The one path turns to the left where the other one turns to the right. -/
def Path.Before (p q : Path) : Prop :=
  ∃ common i j rest rest', p = common ++ .item i :: rest ∧ q = common ++ .item j :: rest' ∧ i < j

theorem Path.Before.ne {p q : Path} (h : p.Before q) : p ≠ q := by
  rintro rfl
  obtain ⟨common, i, j, rest, rest', rfl, heq, hlt⟩ := h
  have hsame : Step.item i :: rest = .item j :: rest' := List.append_cancel_left heq
  obtain rfl := Step.item.inj (List.cons.inj hsame).1
  exact Nat.lt_irrefl _ hlt

/-- What the text of a step says behind its dot. -/
def Step.word : Step → String
  | item index => "children[" ++ toString index ++ "]"
  | inner => "child"
  | left => "left"
  | right => "right"

theorem Step.toList_text (s : Step) : s.text.toList = '.' :: s.word.toList := by
  cases s <;> simp [text, word]

theorem Step.dot_not_mem_word (s : Step) : '.' ∉ s.word.toList := by
  cases s with
  | item index =>
      have hdigits : '.' ∉ Nat.toDigits 10 index := by
        intro h
        have hdigit : '.'.isDigit = true := Nat.isDigit_of_mem_toDigits (by decide) (by decide) h
        cases hdigit
      simpa [word] using hdigits
  | inner => simp [word]
  | left => simp [word]
  | right => simp [word]

theorem Step.word_injective : Function.Injective fun s : Step => s.word.toList := by
  intro s t h
  cases s with
  | item index =>
      cases t with
      | item other =>
          have hdigits : Nat.toDigits 10 index = Nat.toDigits 10 other := by simpa [word] using h
          have hread (n : Nat) : Nat.ofDigitChars 10 (Nat.toDigits 10 n) 0 = n :=
            Nat.ofDigitChars_toDigits (by decide) (by decide)
          rw [← hread index, hdigits, hread other]
      | _ => simp [word] at h
  | _ => cases t <;> simp [word] at h ⊢

/-- The text of a path is made of words with dots between them. -/
theorem Path.toList_text (p : Path) :
    p.text.toList = ['.'].intercalate ("root".toList :: p.map fun s => s.word.toList) := by
  have hdots (first : List Char) : ['.'].intercalate (first :: p.map fun s => s.word.toList) =
      first ++ p.flatMap fun s => s.text.toList := by
    induction p generalizing first with
    | nil => simp
    | cons s rest ih =>
        rw [List.map_cons, List.intercalate_cons_cons, ih, List.flatMap_cons, Step.toList_text]
        simp
  rw [hdots, Path.text, String.toList_append, String.toList_join, List.flatMap_map]

/-- The steps of a path can be read off its text. -/
theorem Path.text_injective : Function.Injective Path.text := by
  intro p q h
  have hwords (p : Path) :
      p.text.toList.splitOn '.' = "root".toList :: p.map fun s => s.word.toList := by
    rw [Path.toList_text]
    refine List.splitOn_intercalate '.' ?_ (List.cons_ne_nil _ _)
    intro word hword
    rcases List.mem_cons.mp hword with rfl | hword
    · simp
    · obtain ⟨s, -, rfl⟩ := List.mem_map.mp hword
      exact s.dot_not_mem_word
  have heq : "root".toList :: (p.map fun s => s.word.toList) =
      "root".toList :: q.map fun s => s.word.toList := by
    rw [← hwords, ← hwords, h]
  exact List.map_injective_iff.mpr Step.word_injective (List.cons.inj heq).2

example : Path.text [.item 1, .inner] = "root.children[1].child" := by decide

end Newswire.Rule
