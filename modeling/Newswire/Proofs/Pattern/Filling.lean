import Mathlib
import Newswire.Proofs.Pattern.Groups
import Newswire.Proofs.Pattern.Naming
import Newswire.Proofs.Pattern.Replacing

/-!
# Replacements of matches

In a match of a pattern every piece of a replacement stands for the text that its notation says. A
number is never taken for the name of a group, and no group has a name with a closing brace in it,
so that a replacement keeps its meaning unless it has such a name itself.
-/

namespace Newswire.Pattern

namespace Replacement

/-- What a piece stands for in a match. -/
def Piece.meaning (p : Pattern) (text : Array Char) (m : Match) : Piece → List Char
  | plain c => [c]
  | whole => m.group text 0
  | numbered digits => m.group text (Decimal.ofDigits digits)
  | named name => groupText p text m name

section Groups

variable {p : Pattern} {text : Array Char} {m : Match} {name digits : List Char}

theorem number?_digits (hne : digits ≠ []) (hdigits : ∀ d ∈ digits, d.isDigit = true) :
    number? digits = if Decimal.ofDigits digits ≥ 0x10000000000000000 then none
      else some (Decimal.ofDigits digits) := by
  have hsign : digits.head? ≠ some '+' := fun hhead =>
    absurd (hdigits _ (List.mem_of_head? hhead)) (by decide)
  have hall : digits.all Char.isDigit = true := List.all_eq_true.mpr hdigits
  simp [number?, hsign, hall, hne]

theorem number?_eq_none (hclose : '\x7d' ∈ name) : number? name = none := by
  have hmem : '\x7d' ∈ (if name.head? = some '+' then name.tail else name) := by
    split
    · next hsign =>
      obtain ⟨more, rfl⟩ := List.head?_eq_some_iff.mp hsign
      simpa using hclose
    · exact hclose
  have hall : (if name.head? = some '+' then name.tail else name).all Char.isDigit = false :=
    List.all_eq_false.mpr ⟨_, hmem, by decide⟩
  simp [number?, hall]

theorem groupText_of_not_named (hnumber : number? name = none)
    (hnames : ∀ e ∈ p.names, e.1.toList ≠ name) : groupText p text m name = [] := by
  have hfind : (p.names.find? fun e => e.1.toList == name) = none :=
    List.find?_eq_none.mpr fun e he => by simpa using hnames e he
  rw [groupText, hnumber]
  dsimp only
  rw [hfind]

/-- Digits denote the group of that number, also where they are too large for a number. -/
theorem groupText_digits (hnames : ∀ e ∈ p.names, IsGroupName e.1.toList)
    (hsize : m.slots.size = 2 * (p.captures + 1)) (hfit : p.captures < 0x10000000000000000)
    (hne : digits ≠ []) (hdigits : ∀ d ∈ digits, d.isDigit = true) :
    groupText p text m digits = m.group text (Decimal.ofDigits digits) := by
  have hnumber := number?_digits hne hdigits
  split at hnumber
  · rw [Match.group_eq_nil hsize (by omega)]
    exact groupText_of_not_named hnumber fun e he heq => (hnames e he).not_digits (heq ▸ hdigits)
  · rw [groupText, hnumber]

theorem groupText_of_close (hnames : ∀ e ∈ p.names, IsGroupName e.1.toList)
    (hclose : '\x7d' ∈ name) : groupText p text m name = [] :=
  groupText_of_not_named (number?_eq_none hclose) fun e he heq =>
    (hnames e he).close_not_mem (heq ▸ hclose)

/-- In a match a piece is filled in with what it stands for. -/
theorem filled_eq_meaning {cs : List Char} {pieces : List Piece} {piece : Piece}
    (hnames : ∀ e ∈ p.names, IsGroupName e.1.toList)
    (hsize : m.slots.size = 2 * (p.captures + 1)) (hfit : p.captures < 0x10000000000000000)
    (h : Reads cs pieces) (hpiece : piece ∈ pieces) :
    piece.filled (groupText p text m) = piece.meaning p text m := by
  cases piece with
  | plain c => rfl
  | whole =>
      have hzero : groupText p text m ['0'] = m.group text (Decimal.ofDigits ['0']) :=
        groupText_digits hnames hsize hfit (by decide) (List.forall_mem_singleton.mpr rfl)
      exact hzero
  | numbered digits =>
      obtain ⟨hne, hdigits⟩ := h.numbered_digits hpiece
      exact groupText_digits hnames hsize hfit hne hdigits
  | named name => rfl

end Groups

section Matches

variable {limit : Nat} {flags : Flags} {source : String} {p : Pattern} {everywhere : Bool}
  {text : Array Char} {m : Match} {cs : List Char} {pieces : List Piece}

/-- The pattern has no more groups than sixty-four bits can number, as any that fits in memory. -/
theorem expand_meaning_iff (hp : compile limit flags source = .ok p)
    (hfit : p.captures < 0x10000000000000000) (hm : m ∈ p.findAll everywhere text)
    (h : Reads cs pieces) :
    expand (groupText p text m) (translate cs) = pieces.flatMap (·.meaning p text m) ↔
      ∀ name, .named name ∈ pieces → '\x7d' ∈ name →
        expand (groupText p text m) (braced name) = [] := by
  have hnames := isGroupName_of_compile hp
  have hmeaning : pieces.flatMap (·.filled (groupText p text m)) =
      pieces.flatMap (·.meaning p text m) :=
    List.flatMap_congr fun piece hpiece =>
      filled_eq_meaning hnames (size_of_mem_findAll hm) hfit h hpiece
  rw [← hmeaning]
  exact expand_translate_iff (fun name hclose => groupText_of_close hnames hclose) h

theorem replace_congr {f g : Match → List Char} (h : ∀ m ∈ p.findAll everywhere text, f m = g m) :
    p.replace everywhere f text = p.replace everywhere g text := by
  have hgo (i : Nat) (ms : List Match) (hms : ∀ m ∈ ms, f m = g m) :
      replace.go f text i ms = replace.go g text i ms := by
    induction ms generalizing i with
    | nil => rfl
    | cons m ms ih =>
        obtain ⟨hm, hms⟩ := List.forall_mem_cons.mp hms
        rw [replace.go, replace.go, hm, ih m.stop hms]
  exact hgo 0 _ h

/-- A text has what the pieces stand for in the place of its matches. -/
theorem apply_eq_of_close_not_mem {replacement s : String}
    (hp : compile limit flags source = .ok p) (hfit : p.captures < 0x10000000000000000)
    (h : Reads replacement.toList pieces) (hclose : ∀ name, .named name ∈ pieces → '\x7d' ∉ name) :
    apply p everywhere replacement s =
      String.ofList (p.replace everywhere (fun m => pieces.flatMap (·.meaning p s.toList.toArray m))
        s.toList.toArray) := by
  refine congrArg String.ofList (replace_congr fun m hm => ?_)
  exact (expand_meaning_iff hp hfit hm h).mpr fun name hname hmem => absurd hmem (hclose name hname)

/-- Every replacement is made of pieces. For a match it is filled in with what they stand for
exactly if the form of each name that holds a closing brace comes to nothing; and whatever the
groups are it is filled in as it reads exactly if no name holds one. -/
theorem expand_eq_meaning_iff (hp : compile limit flags source = .ok p)
    (hfit : p.captures < 0x10000000000000000) (replacement : List Char) :
    (∃ pieces, Reads replacement pieces) ∧
      ∀ pieces, Reads replacement pieces →
        (∀ everywhere text, ∀ m ∈ p.findAll everywhere text,
          expand (groupText p text m) (translate replacement) =
              pieces.flatMap (·.meaning p text m) ↔
            ∀ name, .named name ∈ pieces → '\x7d' ∈ name →
              expand (groupText p text m) (braced name) = []) ∧
        ((∀ group : List Char → List Char, (∀ name, '\x7d' ∈ name → group name = []) →
            expand group (translate replacement) = pieces.flatMap (·.filled group)) ↔
          ∀ name, .named name ∈ pieces → '\x7d' ∉ name) :=
  ⟨exists_reads replacement, fun _ h =>
    ⟨fun _ _ _ hm => expand_meaning_iff hp hfit hm h, forall_expand_translate_iff h⟩⟩

/-- The pattern `(a)`. -/
def letterGroup : Pattern :=
  let (program, start) := (Node.capture 1 (.set (.single 0x61))).program
  ⟨program, start, 1, []⟩

/-- Its match in a text of that letter. -/
def letterMatch : Match := ⟨#[some 0, some 1, some 0, some 1]⟩

theorem compile_letterGroup : compile runLimit {} "(a)" = .ok letterGroup := by
  have hread : read? "(a)" =
      some ⟨.group (.captured 1 none) (.literal ⟨'a', false⟩), 1, []⟩ := by cbv
  rw [compile, interpret, hread]
  rfl

theorem findAll_letterGroup : letterGroup.findAll true #['a'] = [letterMatch] := rfl

/-- A group by its number in both notations. -/
theorem letterGroup_filled :
    compile runLimit {} "(a)" = .ok letterGroup ∧ letterGroup.captures < 0x10000000000000000 ∧
      expand (groupText letterGroup #['a'] letterMatch) (translate "$1-$<1>".toList) =
        "a-a".toList := by
  have hread : Reads "$1-$<1>".toList [.numbered ['1'], .plain '-', .named ['1']] :=
    @Reads.numbered ['1'] "-$<1>".toList _ (by decide) (List.forall_mem_singleton.mpr rfl)
      (by simp)
      (.plain (by decide) (@Reads.named ['1'] [] _ (by decide) .empty))
  have hiff := ((expand_eq_meaning_iff compile_letterGroup (by decide) _).2 _ hread).1 true #['a']
    letterMatch (by simp [findAll_letterGroup])
  refine ⟨compile_letterGroup, by decide, (hiff.mpr ?_).trans (by decide)⟩
  intro name hname hclose
  obtain rfl : name = ['1'] := by simpa using hname
  exact absurd hclose (by decide)

/-- A name is cut off at the closing brace in it, and what is left of it stands in the text. -/
theorem bracedName_left_over :
    compile runLimit {} "(a)" = .ok letterGroup ∧ letterMatch ∈ letterGroup.findAll true #['a'] ∧
      Reads "$<x\x7dy>".toList [.named "x\x7dy".toList] ∧
      (Piece.named "x\x7dy".toList).meaning letterGroup #['a'] letterMatch = [] ∧
      expand (groupText letterGroup #['a'] letterMatch) (translate "$<x\x7dy>".toList) =
        "y\x7d".toList := by
  refine ⟨compile_letterGroup, by simp [findAll_letterGroup],
    @Reads.named "x\x7dy".toList [] _ (by decide) .empty, by decide, ?_⟩
  cbv

end Matches

end Replacement

end Newswire.Pattern
