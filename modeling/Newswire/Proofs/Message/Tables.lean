import Mathlib.Algebra.BigOperators.Group.List.Basic
import Mathlib.Algebra.GroupWithZero.Nat
import Mathlib.Data.List.DropRight
import Mathlib.Order.Bounds.Defs
import Newswire.Proofs.Message.Tags
import Newswire.Proofs.Text.Blanks

/-!
# Tables in columns

A table is laid out with one line for each row, between two fences. With the spaces that were
trimmed behind it, a line is made of one stretch for each column: the text of the cell and spaces
behind it, as many characters in every row. So a column starts at the same place in every line.
-/

namespace Newswire

namespace Text

/-- What is trimmed at the end of a text is blank. -/
theorem exists_trimEnd_append (cs : List Char) :
    ∃ gap, trimEnd cs ++ gap = cs ∧ ∀ c ∈ gap, isBlank c = true :=
  ⟨cs.rtakeWhile isBlank, List.rdropWhile_append_rtakeWhile, fun _ => List.mem_rtakeWhile_imp⟩

/-- Spaces are the only blanks in a text. -/
def OnOneLine (cs : List Char) : Prop := ∀ c ∈ cs, isBlank c = true → c = ' '

namespace OnOneLine

variable {cs : List Char}

theorem append {more : List Char} (h : OnOneLine cs) (hmore : OnOneLine more) :
    OnOneLine (cs ++ more) := by
  intro c hc
  rcases List.mem_append.mp hc with hc | hc
  · exact h c hc
  · exact hmore c hc

theorem spaces (n : Nat) : OnOneLine (List.replicate n ' ') :=
  fun _ hc _ => List.eq_of_mem_replicate hc

theorem of_subset {more : List Char} (h : OnOneLine cs) (hmore : more ⊆ cs) : OnOneLine more :=
  fun c hc => h c (hmore hc)

theorem intercalate {joint : List Char} {ws : List (List Char)} (hjoint : OnOneLine joint)
    (hws : ∀ w ∈ ws, OnOneLine w) : OnOneLine (joint.intercalate ws) := by
  induction ws with
  | nil => exact fun c hc => absurd hc (by simp)
  | cons w rest ih =>
      obtain ⟨hw, hrest⟩ := List.forall_mem_cons.mp hws
      cases rest with
      | nil => simpa using hw
      | cons w' rest =>
          rw [List.intercalate_cons_cons]
          exact (hw.append hjoint).append (ih hrest)

theorem newline_not_mem (h : OnOneLine cs) : '\n' ∉ cs :=
  fun hc => absurd (h '\n' hc (by decide)) (by decide)

end OnOneLine

end Text

namespace Message.Markup

open Text (OnOneLine)

/-- The characters of the words of a text, with a space between two words. -/
theorem onOneLine_words (cs : List Char) : OnOneLine (List.intercalate [' '] (Text.words cs)) := by
  apply OnOneLine.intercalate (OnOneLine.spaces 1)
  intro w hw c hc hblank
  rw [Text.not_isBlank_of_mem_words hw c hc] at hblank
  cases hblank

/-- What the text of a cell keeps to. -/
structure IsCell (cell : List Char) : Prop where
  length_le : cell.length ≤ maxWidth
  onOneLine : OnOneLine cell

theorem isCell_cellText (html : List Char) : IsCell (cellText html) where
  length_le := List.length_take_le ..
  onOneLine := (onOneLine_words _).of_subset (List.take_subset ..)

/-- The text of a column in a row, which is empty where the row has no such cell. -/
def cell (row : List (List Char)) (k : Nat) : List Char := row[k]?.getD []

theorem isCell_cell {row : List (List Char)} (h : ∀ c ∈ row, IsCell c) (k : Nat) :
    IsCell (cell row k) := by
  rw [cell]
  cases hk : row[k]? with
  | none => exact ⟨Nat.zero_le _, fun c hc => absurd hc List.not_mem_nil⟩
  | some c => exact h c (List.mem_of_getElem? hk)

theorem mem_rowsOf {body : List Char} {row : List (List Char)} (h : row ∈ rowsOf body) :
    row ≠ [] ∧ ∀ c ∈ row, IsCell c := by
  obtain ⟨hrow, hne⟩ := List.mem_filter.mp h
  obtain ⟨inner, -, rfl⟩ := List.mem_map.mp hrow
  refine ⟨by simpa using hne, fun c hc => ?_⟩
  obtain ⟨html, -, rfl⟩ := List.mem_map.mp hc
  exact isCell_cellText html

section Widths

variable {rows : List (List (List Char))} {row : List (List Char)} {k : Nat}

theorem le_foldl_max {ns : List Nat} {n : Nat} (h : n ∈ ns) : n ≤ ns.foldl max 0 := by
  obtain ⟨m, hm⟩ := Option.isSome_iff_exists.mp (List.isSome_max?_of_mem h)
  rw [List.foldl_max, hm, Option.getD_some, Nat.zero_max]
  exact (List.max?_eq_some_iff.mp hm).2 n h

theorem foldl_max_mem {ns : List Nat} (h : ns ≠ []) : ns.foldl max 0 ∈ ns := by
  obtain ⟨n, rest, rfl⟩ := List.exists_cons_of_ne_nil h
  obtain ⟨m, hm⟩ := Option.isSome_iff_exists.mp (List.isSome_max?_of_mem (List.mem_cons_self (a := n)))
  rw [List.foldl_max, hm, Option.getD_some, Nat.zero_max]
  exact (List.max?_eq_some_iff.mp hm).1

theorem length_cell_le (h : row ∈ rows) (k : Nat) : (cell row k).length ≤ width rows k :=
  le_foldl_max (List.mem_map_of_mem h)

theorem length_le_columns (h : row ∈ rows) : row.length ≤ columns rows :=
  le_foldl_max (List.mem_map_of_mem h)

theorem exists_length_eq_columns (h : rows ≠ []) : ∃ row ∈ rows, row.length = columns rows := by
  have hmem : columns rows ∈ rows.map List.length := foldl_max_mem (by simpa using h)
  exact List.mem_map.mp hmem

/-- The width of a column is the length of its widest cell. -/
theorem isGreatest_width (hne : rows ≠ []) (hk : k < columns rows) :
    IsGreatest {n | ∃ row ∈ rows, ∃ c, row[k]? = some c ∧ c.length = n} (width rows k) := by
  constructor
  · have hmem : width rows k ∈ rows.map fun row => (cell row k).length :=
      foldl_max_mem (by simpa using hne)
    obtain ⟨row, hrow, hwidth⟩ := List.mem_map.mp hmem
    cases hcell : row[k]? with
    | some c => exact ⟨row, hrow, c, hcell, by rw [← hwidth, cell, hcell]; rfl⟩
    -- A column whose widest text is that of a missing cell has none but empty ones.
    | none =>
        obtain ⟨long, hlong, hlength⟩ := exists_length_eq_columns hne
        have hget : long[k]? = some long[k] := List.getElem?_eq_getElem (hlength ▸ hk)
        refine ⟨long, hlong, long[k], hget, ?_⟩
        have hzero : width rows k = 0 := by rw [← hwidth, cell, hcell]; rfl
        have hle := length_cell_le hlong k
        rw [cell, hget, hzero] at hle
        rw [hzero]
        exact Nat.le_zero.mp hle
  · rintro n ⟨row, hrow, c, hcell, rfl⟩
    have hle := length_cell_le hrow k
    rwa [cell, hcell] at hle

end Widths

/-- Where a column starts: behind the columns before it, each of which takes its width and two
spaces. -/
def offset (rows : List (List (List Char))) (k : Nat) : Nat :=
  ((List.range k).map fun j => width rows j + 2).sum

/-- A line shows the cells of its row in their columns, up to spaces behind the line. -/
def Shows (rows : List (List (List Char))) (row : List (List Char)) (line : List Char) : Prop :=
  ∃ n, (line ++ List.replicate n ' ').length = offset rows (columns rows) ∧
    ∀ k < columns rows,
      ((line ++ List.replicate n ' ').drop (offset rows k)).take (width rows k + 2) =
        padTo (width rows k + 2) (cell row k)

section Line

variable {rows : List (List (List Char))} {row : List (List Char)}

theorem length_padTo {n : Nat} {c : List Char} (h : c.length ≤ n) : (padTo n c).length = n := by
  rw [padTo, List.length_append, List.length_replicate]
  omega

theorem padTo_append {n : Nat} {c : List Char} (h : c.length ≤ n) (m : Nat) :
    padTo n c ++ List.replicate m ' ' = padTo (n + m) c := by
  rw [padTo, padTo, List.append_assoc, List.replicate_append_replicate]
  congr 2
  omega

theorem onOneLine_padTo {c : List Char} (h : OnOneLine c) (n : Nat) : OnOneLine (padTo n c) :=
  h.append (.spaces _)

theorem intercalate_append {joint : List Char} {ws : List (List Char)} (h : ws ≠ []) :
    joint.intercalate ws ++ joint = ws.flatMap (· ++ joint) := by
  induction ws with
  | nil => exact absurd rfl h
  | cons w rest ih =>
      cases rest with
      | nil => simp
      | cons w' rest =>
          rw [List.intercalate_cons_cons, List.append_assoc, ih (by simp)]
          rfl

/-- A row with its cells padded, before the line is trimmed. -/
def padded (rows : List (List (List Char))) (row : List (List Char)) : List Char :=
  List.intercalate [' ', ' '] ((List.range (columns rows)).map fun k =>
    padTo (width rows k) (cell row k))

theorem line_eq (rows : List (List (List Char))) (row : List (List Char)) :
    line ((List.range (columns rows)).map (width rows)) row = Text.trimEnd (padded rows row) := by
  rw [line, padded, List.zipIdx_map]
  congr 2
  rw [List.map_map]
  apply List.ext_getElem
  · simp
  · intro k hk hk'
    simp [cell]

theorem padded_append (hrow : row ∈ rows) (hne : row ≠ []) :
    padded rows row ++ [' ', ' '] =
      ((List.range (columns rows)).map fun k => padTo (width rows k + 2) (cell row k)).flatten := by
  have hcolumns : 0 < columns rows :=
    Nat.lt_of_lt_of_le (List.length_pos_iff.mpr hne) (length_le_columns hrow)
  rw [padded, intercalate_append, ← List.flatMap_def, List.flatMap_map]
  · refine List.flatMap_congr fun k _ => ?_
    exact padTo_append (length_cell_le hrow k) 2
  · simpa using Nat.ne_of_gt hcolumns

theorem onOneLine_padded (h : ∀ c ∈ row, IsCell c) : OnOneLine (padded rows row) := by
  apply OnOneLine.intercalate (OnOneLine.spaces 2)
  intro w hw
  obtain ⟨k, -, rfl⟩ := List.mem_map.mp hw
  exact onOneLine_padTo (isCell_cell h k).onOneLine _

/-- Stretches of known lengths are found where the lengths of those before them add up to. -/
theorem shows_trimEnd_padded (hrow : row ∈ rows) (hne : row ≠ []) (h : ∀ c ∈ row, IsCell c) :
    Shows rows row (Text.trimEnd (padded rows row)) := by
  obtain ⟨gap, hgap, hblank⟩ := Text.exists_trimEnd_append (padded rows row)
  have hspaces : gap = List.replicate gap.length ' ' := by
    apply List.eq_replicate_of_mem
    intro c hc
    exact onOneLine_padded h c (hgap ▸ List.mem_append_right _ hc) (hblank c hc)
  let stretches := (List.range (columns rows)).map fun k => padTo (width rows k + 2) (cell row k)
  have hlengths : stretches.map List.length =
      (List.range (columns rows)).map fun k => width rows k + 2 := by
    rw [List.map_map]
    refine List.map_congr_left fun k _ => ?_
    exact length_padTo (Nat.le_add_right_of_le (length_cell_le hrow k))
  have htext : Text.trimEnd (padded rows row) ++ List.replicate (gap.length + 2) ' ' =
      stretches.flatten := by
    rw [← List.replicate_append_replicate, ← List.append_assoc, ← hspaces, hgap]
    exact padded_append hrow hne
  refine ⟨gap.length + 2, ?_, fun k hk => ?_⟩
  · rw [htext, List.length_flatten, hlengths, offset]
  · have hlength : k < stretches.length := by simpa [stretches] using hk
    have hoffset : offset rows k = ((stretches.map List.length).take k).sum := by
      rw [hlengths, ← List.map_take, List.take_range, Nat.min_eq_left (Nat.le_of_lt hk), offset]
    have hstretch : stretches[k] = padTo (width rows k + 2) (cell row k) := by simp [stretches]
    rw [htext, hoffset, List.drop_sum_flatten, List.drop_eq_getElem_cons hlength, hstretch,
      List.flatten_cons]
    exact List.take_left' (length_padTo (Nat.le_add_right_of_le (length_cell_le hrow k)))

end Line

section Written

variable {names : List (List Char)} {inner content rest : List Char}

/-- A tag without attributes is opened by its name alone. -/
theorem behindOpening_append (name : List Char) (rest : List Char)
    (h : behindWord name (name ++ '>' :: rest) = some ('>' :: rest)) :
    behindOpening name ('<' :: (name ++ '>' :: rest)) = some rest := by
  rw [behindOpening, h, Option.bind_eq_bind, Option.bind_some, if_pos (endsWord_angle rest),
    behindFirst, if_pos rfl]

theorem gatherFrom_eq (hit : List Char → Option Hit) (n : Nat) (cs : List Char) :
    gatherFrom hit n cs = gather hit (cs.drop n) := by
  induction cs generalizing n with
  | nil => cases n <;> rfl
  | cons c rest ih =>
      cases n with
      | zero => rfl
      | succ n => exact ih n

/-- A tag that is closed no earlier than behind the text. -/
def Passes (names : List (List Char)) (inner : List Char) : Prop :=
  ∀ rest, cutAtClosing names (inner ++ rest) =
    (cutAtClosing names rest).map fun p => (inner ++ p.1, p.2)

theorem Passes.nil (names : List (List Char)) : Passes names [] := by
  intro rest
  simp

theorem Passes.append {more : List Char} (h : Passes names inner) (hmore : Passes names more) :
    Passes names (inner ++ more) := by
  intro rest
  rw [List.append_assoc, h, hmore, Option.map_map]
  simp [Function.comp_def]

theorem Passes.cons {c : Char} (hc : c ≠ '<') (h : Passes names inner) :
    Passes names (c :: inner) := by
  intro rest
  have hnone : (names.findSome? fun name => behindClosing name (c :: (inner ++ rest))) = none := by
    rw [List.findSome?_eq_none_iff]
    intro name _
    rw [behindClosing]
    intro rest h
    exact absurd (List.cons.inj h).1 hc
  rw [List.cons_append, cutAtClosing, hnone, h, Option.map_map]
  rfl

theorem Passes.of_not_mem (h : '<' ∉ inner) : Passes names inner := by
  induction inner with
  | nil => exact .nil names
  | cons c rest ih =>
      obtain ⟨hc, hrest⟩ := List.ne_and_not_mem_of_not_mem_cons h
      exact (ih hrest).cons hc.symm

/-- An element without attributes. -/
def tagged (name content : List Char) : List Char :=
  '<' :: (name ++ '>' :: (content ++ '<' :: '/' :: (name ++ ['>'])))

def writtenRow (row : List (List Char)) : List Char := row.flatMap (tagged ['t', 'd'])

/-- A table body that has the rows. -/
def written (rows : List (List (List Char))) : List Char :=
  rows.flatMap fun row => tagged ['t', 'r'] (writtenRow row)

/-- Cells do not end their row. -/
theorem passes_writtenRow {row : List (List Char)} (h : ∀ c ∈ row, '<' ∉ c) :
    Passes [['t', 'r']] (writtenRow row) := by
  have hopening : Passes [['t', 'r']] ['<', 't', 'd', '>'] := fun rest => by
    simp [cutAtClosing, behindClosing, Function.comp_def]
  have hclosing : Passes [['t', 'r']] ['<', '/', 't', 'd', '>'] := fun rest => by
    simp [cutAtClosing, behindClosing, behindWord, Function.comp_def]
  induction row with
  | nil => exact .nil _
  | cons c row ih =>
      obtain ⟨hc, hrow⟩ := List.forall_mem_cons.mp h
      have htagged := hopening.append ((Passes.of_not_mem hc).append hclosing)
      simpa [writtenRow, tagged] using htagged.append (ih hrow)

theorem element_row (h : Passes [['t', 'r']] content) (rest : List Char) :
    element [['t', 'r']] (tagged ['t', 'r'] content ++ rest) =
      some (hitUpTo (tagged ['t', 'r'] content ++ rest) rest content) := by
  have hopen := behindOpening_append ['t', 'r']
    (content ++ '<' :: '/' :: 't' :: 'r' :: '>' :: rest) (by simp [behindWord])
  have hcut : cutAtClosing [['t', 'r']] (content ++ '<' :: '/' :: 't' :: 'r' :: '>' :: rest) =
      some (content, rest) := by
    rw [h]
    simp [cutAtClosing, behindClosing, behindWord, Text.isBlank]
  simp only [List.cons_append, List.nil_append] at hopen
  simp [tagged, element, hopen, hcut]

theorem element_cell (h : '<' ∉ content) (rest : List Char) :
    element [['t', 'h'], ['t', 'd']] (tagged ['t', 'd'] content ++ rest) =
      some (hitUpTo (tagged ['t', 'd'] content ++ rest) rest content) := by
  have hopen := behindOpening_append ['t', 'd']
    (content ++ '<' :: '/' :: 't' :: 'd' :: '>' :: rest) (by simp [behindWord])
  have hother : behindOpening ['t', 'h']
      ('<' :: 't' :: 'd' :: '>' :: (content ++ '<' :: '/' :: 't' :: 'd' :: '>' :: rest)) = none := by
    rfl
  have hcut : cutAtClosing [['t', 'h'], ['t', 'd']]
      (content ++ '<' :: '/' :: 't' :: 'd' :: '>' :: rest) = some (content, rest) := by
    rw [Passes.of_not_mem h]
    simp [cutAtClosing, behindClosing, behindWord, Text.isBlank]
  simp only [List.cons_append, List.nil_append] at hopen
  simp [tagged, element, hopen, hother, hcut]

/-- The content of an element that stands in front is gathered first. -/
theorem gather_tagged {name : List Char} (rest : List Char)
    (h : element names (tagged name content ++ rest) =
      some (hitUpTo (tagged name content ++ rest) rest content)) :
    gather (element names) (tagged name content ++ rest) =
      content :: gather (element names) rest := by
  obtain ⟨c, cs, hcs⟩ : ∃ c cs, tagged name content = c :: cs := ⟨_, _, rfl⟩
  rw [hcs, List.cons_append] at h ⊢
  have hbehind : (hitUpTo (c :: (cs ++ rest)) rest content).behind = cs.length := by
    simp only [hitUpTo, List.length_cons, List.length_append]
    omega
  rw [gather, gatherFrom, h]
  dsimp only
  rw [hbehind, gatherFrom_eq, List.drop_left]
  rfl

theorem gather_written {row : List (List Char)} (h : ∀ c ∈ row, '<' ∉ c) :
    gather (element [['t', 'h'], ['t', 'd']]) (writtenRow row) = row := by
  induction row with
  | nil => rfl
  | cons c row ih =>
      obtain ⟨hc, hrow⟩ := List.forall_mem_cons.mp h
      rw [writtenRow, List.flatMap_cons, gather_tagged _ (element_cell hc _), ← writtenRow, ih hrow]

/-- A table body that is written has the rows that were written. -/
theorem rowsOf_written {rows : List (List (List Char))}
    (h : ∀ row ∈ rows, row ≠ [] ∧ ∀ c ∈ row, '<' ∉ c) :
    rowsOf (written rows) = rows.map (·.map cellText) := by
  have hgather : gather (element [['t', 'r']]) (written rows) = rows.map writtenRow := by
    induction rows with
    | nil => rfl
    | cons row rows ih =>
        obtain ⟨⟨-, hrow⟩, hrows⟩ := List.forall_mem_cons.mp h
        rw [written, List.flatMap_cons, gather_tagged _ (element_row (passes_writtenRow hrow) _),
          ← written, ih hrows, List.map_cons]
  have hcells : (rows.map writtenRow).map
      (fun row => (gather (element [['t', 'h'], ['t', 'd']]) row).map cellText) =
        rows.map (·.map cellText) := by
    rw [List.map_map]
    refine List.map_congr_left fun row hrow => ?_
    exact congrArg (List.map cellText) (gather_written (h row hrow).2)
  rw [rowsOf, hgather, hcells, List.filter_eq_self]
  intro row hrow
  obtain ⟨cells, hcells, rfl⟩ := List.mem_map.mp hrow
  simpa using (h cells hcells).1

end Written

/-- What a laid out table is. The cells are texts on one line, each column is as wide as its widest
cell, and between the fences there is a line for each row, in their order. -/
structure IsTable (rows : List (List (List Char))) (text : List Char) : Prop where
  cells : ∀ row ∈ rows, row ≠ [] ∧ ∀ c ∈ row, IsCell c
  columns : IsGreatest {n | ∃ row ∈ rows, row.length = n} (columns rows)
  width (k : Nat) (hk : k < Markup.columns rows) :
    IsGreatest {n | ∃ row ∈ rows, ∃ c, row[k]? = some c ∧ c.length = n} (width rows k)
  lines : ∃ lines, text.splitOn '\n' = fence :: (lines ++ [fence]) ∧
    List.Forall₂ (Shows rows) rows lines

/-- Lines are told apart by the breaks between them. -/
theorem splitOn_lines {lines : List (List Char)} {first last : List Char} (hfirst : '\n' ∉ first)
    (hlast : '\n' ∉ last) (hlines : ∀ l ∈ lines, '\n' ∉ l) :
    (first ++ '\n' :: lines.flatMap (· ++ ['\n']) ++ last).splitOn '\n' =
      first :: (lines ++ [last]) := by
  have hjoin : first ++ '\n' :: lines.flatMap (· ++ ['\n']) ++ last =
      List.intercalate ['\n'] (first :: (lines ++ [last])) := by
    clear hfirst hlines
    induction lines generalizing first with
    | nil => simp
    | cons l rest ih =>
        rw [List.cons_append, List.intercalate_cons_cons, ← ih]
        simp
  rw [hjoin]
  apply List.splitOn_intercalate
  · intro l hl
    rcases List.mem_cons.mp hl with rfl | hl
    · exact hfirst
    · rcases List.mem_append.mp hl with hl | hl
      · exact hlines l hl
      · exact List.mem_singleton.mp hl ▸ hlast
  · exact List.cons_ne_nil _ _

/-- A table body with cells is laid out in columns. -/
theorem layOut_isTable (body : List Char) (h : rowsOf body ≠ []) :
    IsTable (rowsOf body) (layOut body) := by
  have hfence : '\n' ∉ fence := by decide
  constructor
  · exact fun row hrow => mem_rowsOf hrow
  · constructor
    · exact exists_length_eq_columns h
    · rintro n ⟨row, hrow, rfl⟩
      exact length_le_columns hrow
  · exact fun k hk => isGreatest_width h hk
  · refine ⟨(rowsOf body).map fun row => Text.trimEnd (padded (rowsOf body) row), ?_, ?_⟩
    · rw [layOut]
      dsimp only
      rw [if_neg (by simpa using h)]
      simp only [line_eq]
      rw [← List.flatMap_map (fun row => Text.trimEnd (padded (rowsOf body) row)) (· ++ ['\n'])]
      apply splitOn_lines hfence hfence
      intro l hl
      obtain ⟨row, hrow, rfl⟩ := List.mem_map.mp hl
      apply OnOneLine.newline_not_mem
      exact (onOneLine_padded (mem_rowsOf hrow).2).of_subset Text.trimEnd_prefix.subset
    · rw [List.forall₂_map_right_iff, List.forall₂_same]
      intro row hrow
      exact shows_trimEnd_padded hrow (mem_rowsOf hrow).1 (mem_rowsOf hrow).2

/-- Three rows of different lengths, with a text beyond ASCII and blanks of several kinds. -/
def fruit : List (List (List Char)) :=
  [["Sort".toList, "Price".toList], ["Äpfel".toList],
    [" Pears \n and  quinces".toList, [], "3".toList]]

theorem layOut_fruit_isTable :
    rowsOf (written fruit) ≠ [] ∧ IsTable (rowsOf (written fruit)) (layOut (written fruit)) ∧
      layOut (written fruit) =
        "```\nSort               Price\nÄpfel\nPears and quinces         3\n```".toList := by
  have hrows : rowsOf (written fruit) = fruit.map (·.map cellText) := rowsOf_written (by decide)
  have hne : rowsOf (written fruit) ≠ [] := by
    rw [hrows]
    decide +kernel
  refine ⟨hne, layOut_isTable _ hne, ?_⟩
  rw [layOut, hrows]
  decide +kernel

end Message.Markup

end Newswire
