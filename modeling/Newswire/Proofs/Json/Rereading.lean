import Mathlib.Data.List.TakeDrop
import Newswire.Json.Writer
import Newswire.Proofs.Json.Lossless

/-!
# Reading what was written

The text of a plain value is read as that value if its parts lie no deeper in one another than the
reader goes. Characters are read one after the other from their escapes, numbers from their digits,
and lists up to their closing bracket; the reader needs two steps for each character at most.
-/

namespace Newswire.Json

theorem hexValue_hexDigit : ∀ {n : Nat}, n < 16 → hexValue (hexDigit n) = some n := by decide

theorem hexUnit_control {n : Nat} (h : n < 0x20) (rest : List Char) :
    hexUnit ('0' :: '0' :: hexDigit (n / 16) :: hexDigit (n % 16) :: rest) = some (n, rest) := by
  have hhigh := hexValue_hexDigit (n := n / 16) (by omega)
  have hlow := hexValue_hexDigit (n := n % 16) (by omega)
  have hzero : hexValue '0' = some 0 := by decide
  have hn : n / 16 * 16 + n % 16 = n := by omega
  simp [hexUnit, hhigh, hlow, hzero, hn]

theorem Draft.pushUnit_of_lt {unit : Nat} (h : unit < 0xD800) (d : Draft) (rest : List Char) :
    d.pushUnit unit rest = (d.push (Char.ofNat unit), rest) := by
  unfold pushUnit
  rw [if_neg (by omega), if_neg (by omega)]

/-- What one character of a string is written as is read as that character. -/
theorem readChars_escape (fuel : Nat) (d : Draft) (c : Char) (rest : List Char) :
    readChars (fuel + 1) d (escape c ++ rest) = readChars fuel (d.push c) rest := by
  rw [escape]
  split_ifs with hquote hback _ _ _ _ _ hcontrol
  case pos | pos | pos | pos | pos | pos | pos => subst c; rfl
  · simp only [List.cons_append, List.nil_append]
    rw [readChars, hexUnit_control hcontrol]
    simp [Draft.pushUnit_of_lt (show c.toNat < 0xD800 by omega)]
  · have hplain : ¬(c.toNat < 0x20 ∨ c = '\\') := not_or.mpr ⟨hcontrol, hback⟩
    rw [List.singleton_append, readChars, if_neg hplain] <;> simp [hquote, hback]

theorem readChars_flatMap_escape {fuel : Nat} {cs : List Char} (h : cs.length < fuel) (d : Draft)
    (rest : List Char) :
    readChars fuel d (cs.flatMap escape ++ '"' :: rest) =
      some (⟨cs.reverse ++ d.said, d.sound⟩, rest) := by
  induction cs generalizing fuel d with
  | nil =>
      obtain ⟨fuel, rfl⟩ := Nat.exists_eq_add_one_of_ne_zero (Nat.ne_of_gt h)
      rfl
  | cons c cs ih =>
      obtain ⟨fuel, rfl⟩ := Nat.exists_eq_add_one_of_ne_zero (Nat.ne_of_gt (Nat.zero_lt_of_lt h))
      rw [List.flatMap_cons, List.append_assoc, readChars_escape,
        ih (Nat.lt_of_succ_lt_succ h), List.reverse_cons, List.append_assoc]
      rfl

theorem length_le_flatMap_escape (cs : List Char) : cs.length ≤ (cs.flatMap escape).length := by
  induction cs with
  | nil => exact Nat.le_refl 0
  | cons c cs ih =>
      have hc : 0 < (escape c).length := by
        unfold escape
        split_ifs <;> simp
      rw [List.flatMap_cons, List.length_append, List.length_cons]
      omega

theorem readString_quoted (s : String) (rest : List Char) :
    readString (s.toList.flatMap escape ++ '"' :: rest) =
      some (⟨s.toList.reverse, true⟩, rest) := by
  have hlength := length_le_flatMap_escape s.toList
  have hfuel : s.toList.length < (s.toList.flatMap escape ++ '"' :: rest).length + 1 := by
    rw [List.length_append]
    omega
  rw [readString, readChars_flatMap_escape hfuel, List.append_nil]

theorem toList_quote (s : String) :
    (quote s).toList = '"' :: (s.toList.flatMap escape ++ ['"']) := by
  rw [quote, String.toList_ofList]
  rfl

/-- Nothing that a number could go on with. -/
def Ends (rest : List Char) : Prop := ∀ c ∈ rest.head?, c = ',' ∨ c = ']' ∨ c = '\x7d'

theorem ofDigits_toDigits (n : Nat) : Decimal.ofDigits (Nat.toDigits 10 n) = n := by
  have hsame :
      Decimal.ofDigits (Nat.toDigits 10 n) = Nat.ofDigitChars 10 (Nat.toDigits 10 n) 0 := by
    rw [Decimal.ofDigits, Nat.ofDigitChars_eq_foldl]
    simp only [Nat.mul_comm]
    rfl
  rw [hsame, Nat.ofDigitChars_toDigits (by decide) (by decide)]

theorem head?_toDigits {n : Nat} (h : n ≠ 0) : (Nat.toDigits 10 n).head? ≠ some '0' := by
  induction n using Nat.strongRecOn with
  | ind n ih =>
      rw [Nat.toDigits_eq_if (by decide)]
      split
      · simpa using h
      · have hrest := ih (n / 10) (by omega) (by omega)
        rw [List.head?_append]
        cases hdigits : (Nat.toDigits 10 (n / 10)).head? with
        | none => simp at hdigits
        | some c => simpa [hdigits] using hrest

theorem not_leading_zero (n : Nat) :
    ¬((Nat.toDigits 10 n).length > 1 ∧ (Nat.toDigits 10 n).head? = some '0') := by
  rintro ⟨hlength, hzero⟩
  have hn : n ≠ 0 := by
    rintro rfl
    exact absurd hlength (by decide)
  exact head?_toDigits hn hzero

theorem span_toDigits (n : Nat) {rest : List Char} (h : Ends rest) :
    (Nat.toDigits 10 n ++ rest).span Char.isDigit = (Nat.toDigits 10 n, rest) := by
  have hdigits : ∀ c ∈ Nat.toDigits 10 n, c.isDigit = true := fun _ =>
    Nat.isDigit_of_mem_toDigits (by decide) (by decide)
  rw [List.span_eq_takeWhile_dropWhile, List.takeWhile_append_of_pos hdigits,
    List.dropWhile_append_of_pos hdigits]
  cases rest with
  | nil => simp
  | cons c tail => rcases h c rfl with rfl | rfl | rfl <;> simp

theorem readFraction_of_ends {rest : List Char} (h : Ends rest) :
    readFraction rest = some ([], rest) := by
  cases rest with
  | nil => rfl
  | cons c tail => rcases h c rfl with rfl | rfl | rfl <;> rfl

theorem readExponent_of_ends {rest : List Char} (h : Ends rest) :
    readExponent rest = some (none, rest) := by
  cases rest with
  | nil => rfl
  | cons c tail => rcases h c rfl with rfl | rfl | rfl <;> rfl

theorem readNumber_toDigits {n : Nat} (h : n < 0x10000000000000000) {rest : List Char}
    (hrest : Ends rest) : readNumber (Nat.toDigits 10 n ++ rest) = some (int n, rest) := by
  have hsign : ∀ tail, Nat.toDigits 10 n ++ rest ≠ '-' :: tail := by
    intro tail heq
    have hmem : '-' ∈ Nat.toDigits 10 n := by
      rcases List.append_eq_cons_iff.mp heq with ⟨hnil, -⟩ | ⟨ds, hds, -⟩
      · exact absurd hnil Nat.toDigits_ne_nil
      · exact hds ▸ List.mem_cons_self
    exact absurd (Nat.isDigit_of_mem_toDigits (by decide) (by decide) hmem) (by decide)
  unfold readNumber
  dsimp only
  split
  · next tail heq => exact absurd heq (hsign tail)
  · simp only [span_toDigits n hrest, readFraction_of_ends hrest, ofDigits_toDigits,
      not_leading_zero]
    simp [h, readExponent_of_ends hrest]

theorem readNumber_neg_toDigits {n : Nat} (hpos : 0 < n) (h : n ≤ 0x8000000000000000)
    {rest : List Char} (hrest : Ends rest) :
    readNumber ('-' :: (Nat.toDigits 10 n ++ rest)) = some (int (-n), rest) := by
  unfold readNumber
  simp only [span_toDigits n hrest, readFraction_of_ends hrest, ofDigits_toDigits,
    not_leading_zero]
  simp [hpos, h, readExponent_of_ends hrest]

theorem readNumber_toString {n : Int} (h : (int n).IsPlain) {rest : List Char} (hrest : Ends rest) :
    readNumber ((toString n).toList ++ rest) = some (int n, rest) := by
  rw [isPlain_int] at h
  rw [Int.toString_eq_repr, Int.repr_eq_if]
  split
  · next hn =>
    rw [Nat.toList_repr, readNumber_toDigits (by omega) hrest, Int.toNat_of_nonneg hn]
  · next hn =>
    rw [String.toList_append, Nat.toList_repr]
    have hread := readNumber_neg_toDigits (n := (-n).toNat) (by omega) (by omega) hrest
    rw [Int.toNat_of_nonneg (by omega), Int.neg_neg] at hread
    exact hread

theorem toList_toString (n : Int) :
    ∃ c cs, (toString n).toList = c :: cs ∧ (c = '-' ∨ c.isDigit = true) := by
  rw [Int.toString_eq_repr, Int.repr_eq_if]
  split
  · obtain ⟨c, cs, h⟩ := List.exists_cons_of_ne_nil (Nat.toDigits_ne_nil (n := n.toNat) (b := 10))
    have hmem : c ∈ Nat.toDigits 10 n.toNat := h ▸ List.mem_cons_self
    have hdigit := Nat.isDigit_of_mem_toDigits (by decide) (by decide) hmem
    exact ⟨c, cs, Nat.toList_repr.trans h, .inr hdigit⟩
  · exact ⟨'-', _, String.toList_append .., .inl rfl⟩

/-- Neither a blank nor the end of a list. -/
def Begins (cs : List Char) : Prop :=
  ∀ c ∈ cs.head?, c ≠ ' ' ∧ c ≠ '\n' ∧ c ≠ '\t' ∧ c ≠ '\r' ∧ c ≠ ']'

theorem Begins.skipSpace {cs : List Char} (h : Begins cs) : skipSpace cs = cs := by
  cases cs with
  | nil => rfl
  | cons c tail =>
      have hc := h c rfl
      simp [Json.skipSpace, hc]

theorem begins_compact {j : Json} (h : j.IsPlain) (rest : List Char) :
    Begins (j.compact.toList ++ rest) := by
  intro c hc
  cases j with
  | int n =>
      obtain ⟨d, ds, hd, hdigit⟩ := toList_toString n
      rw [compact, hd] at hc
      obtain rfl : d = c := by simpa using hc
      rcases hdigit with rfl | hdigit
      · decide
      · refine ⟨?_, ?_, ?_, ?_, ?_⟩ <;> rintro rfl <;> exact absurd hdigit (by decide)
  | str s =>
      rw [compact, toList_quote] at hc
      cases hc
      decide
  | bool b => cases b <;> cases hc <;> decide
  | arr items =>
      rw [compact, String.toList_append, String.toList_append] at hc
      cases hc
      decide
  | obj members =>
      rw [compact, String.toList_append, String.toList_append] at hc
      cases hc
      decide
  | null =>
      cases hc
      decide
  | real lexeme => cases h
  | unreadable => cases h
  | broken => cases h

theorem readValue_number {fuel levels : Nat} {n : Int} (h : (int n).IsPlain) {rest : List Char}
    (hrest : Ends rest) :
    readValue (fuel + 1) levels ((toString n).toList ++ rest) = (int n, some rest) := by
  have hspace := (begins_compact h rest).skipSpace
  have hread := readNumber_toString h hrest
  obtain ⟨c, cs, hcs, hc⟩ := toList_toString n
  have hne : ∀ d : Char, d ≠ '-' → d.isDigit = false → c ≠ d := by
    rintro d hminus hdigit rfl
    rcases hc with hc | hc
    · exact hminus hc
    · exact absurd hc (by simp [hdigit])
  rw [compact, hcs] at hspace
  rw [hcs] at hread ⊢
  rw [readValue, hspace]
  split
  case h_1 heq => cases heq
  case h_8 => rw [hread]
  all_goals
    rename_i heq
    exact absurd (List.cons.inj heq).1 (hne _ (by decide) (by decide))

theorem readValue_str (fuel levels : Nat) (s : String) (rest : List Char) :
    readValue (fuel + 1) levels ((quote s).toList ++ rest) = (str s, some rest) := by
  rw [toList_quote, List.cons_append, List.append_assoc, List.singleton_append]
  simp [readValue, skipSpace, readString_quoted]

theorem readValue_arr_nil {levels : Nat} (h : levels ≠ 0) (fuel : Nat) (tail : List Char) :
    readValue (fuel + 1) levels ('[' :: ']' :: tail) = (arr [], some tail) := by
  simp [readValue, skipSpace, h]

theorem readValue_arr {fuel levels : Nat} {cs tail : List Char} {items : List Json}
    (hlevels : levels ≠ 0) (hcs : Begins cs)
    (h : readItems fuel (levels - 1) cs = (items, some tail)) :
    readValue (fuel + 1) levels ('[' :: cs) = (arr items, some tail) := by
  have hspace : skipSpace ('[' :: cs) = '[' :: cs := rfl
  simp only [readValue, hspace, hcs.skipSpace]
  split
  · next tail => exact absurd rfl (hcs _ rfl).2.2.2.2
  · simp [h, hlevels]

theorem readValue_obj_nil {levels : Nat} (h : levels ≠ 0) (fuel : Nat) (tail : List Char) :
    readValue (fuel + 1) levels ('\x7b' :: '\x7d' :: tail) = (obj [], some tail) := by
  simp [readValue, skipSpace, h]

theorem readValue_obj {fuel levels : Nat} {cs tail : List Char} {members : List (String × Json)}
    (hlevels : levels ≠ 0)
    (h : readMembers fuel (levels - 1) ('"' :: cs) = (members, some tail)) :
    readValue (fuel + 1) levels ('\x7b' :: '"' :: cs) = (obj members, some tail) := by
  simp [readValue, skipSpace, h, hlevels]

theorem readItems_last {fuel levels : Nat} {cs rest : List Char} {j : Json}
    (h : readValue fuel levels cs = (j, some (']' :: rest))) :
    readItems (fuel + 1) levels cs = ([j], some rest) := by
  simp [readItems, skipSpace, h]

theorem readItems_more {fuel levels : Nat} {cs cs' : List Char} {j : Json} {items : List Json}
    {tail : Rest} (h : readValue fuel levels cs = (j, some (',' :: cs')))
    (hitems : readItems fuel levels cs' = (items, tail)) :
    readItems (fuel + 1) levels cs = (j :: items, tail) := by
  simp [readItems, skipSpace, h, hitems]

theorem readMembers_last {fuel levels : Nat} {cs rest : List Char} {name : String} {j : Json}
    (h : readValue fuel levels cs = (j, some ('\x7d' :: rest))) :
    readMembers (fuel + 1) levels ((quote name).toList ++ ':' :: cs) =
      ([(name, j)], some rest) := by
  rw [toList_quote, List.cons_append, List.append_assoc, List.singleton_append]
  simp [readMembers, skipSpace, readString_quoted, h]

theorem readMembers_more {fuel levels : Nat} {cs cs' : List Char} {name : String} {j : Json}
    {members : List (String × Json)} {tail : Rest}
    (h : readValue fuel levels cs = (j, some (',' :: cs')))
    (hmembers : readMembers fuel levels cs' = (members, tail)) :
    readMembers (fuel + 1) levels ((quote name).toList ++ ':' :: cs) =
      ((name, j) :: members, tail) := by
  rw [toList_quote, List.cons_append, List.append_assoc, List.singleton_append]
  simp [readMembers, skipSpace, readString_quoted, h, hmembers]

/-- The text between the brackets of an array. -/
def itemsText (items : List Json) : List Char :=
  [','].intercalate ((compactItems items).map String.toList)

/-- The text between the braces of an object. -/
def membersText (members : List (String × Json)) : List Char :=
  [','].intercalate ((compactMembers members).map String.toList)

theorem toList_compact_arr (items : List Json) :
    (arr items).compact.toList = '[' :: (itemsText items ++ [']']) := by
  rw [compact, String.toList_append, String.toList_append, String.toList_intercalate]
  rfl

theorem toList_compact_obj (members : List (String × Json)) :
    (obj members).compact.toList = '\x7b' :: (membersText members ++ ['\x7d']) := by
  rw [compact, String.toList_append, String.toList_append, String.toList_intercalate]
  rfl

theorem itemsText_singleton (j : Json) : itemsText [j] = j.compact.toList :=
  List.intercalate_singleton

theorem itemsText_cons_cons (j k : Json) (items : List Json) :
    itemsText (j :: k :: items) = j.compact.toList ++ ',' :: itemsText (k :: items) := by
  simp [itemsText, compactItems]

theorem membersText_singleton (name : String) (j : Json) :
    membersText [(name, j)] = (quote name).toList ++ ':' :: j.compact.toList := by
  simp [membersText, compactMembers]

theorem membersText_cons_cons (name : String) (j : Json) (m : String × Json)
    (members : List (String × Json)) :
    membersText ((name, j) :: m :: members) =
      (quote name).toList ++ ':' :: (j.compact.toList ++ ',' :: membersText (m :: members)) := by
  simp [membersText, compactMembers]

theorem begins_itemsText {j : Json} (h : j.IsPlain) (items : List Json) (rest : List Char) :
    Begins (itemsText (j :: items) ++ rest) := by
  cases items with
  | nil =>
      rw [itemsText_singleton]
      exact begins_compact h rest
  | cons k items =>
      rw [itemsText_cons_cons, List.append_assoc]
      exact begins_compact h _

theorem membersText_cons (m : String × Json) (members : List (String × Json)) :
    ∃ cs, membersText (m :: members) = '"' :: cs := by
  obtain ⟨name, j⟩ := m
  cases members with
  | nil => exact ⟨_, by rw [membersText_singleton, toList_quote, List.cons_append]⟩
  | cons m members => exact ⟨_, by rw [membersText_cons_cons, toList_quote, List.cons_append]⟩

theorem ends_cons {c : Char} (h : c = ',' ∨ c = ']' ∨ c = '\x7d') (cs : List Char) :
    Ends (c :: cs) := by
  rintro _ ⟨⟩
  exact h

/-- With so much fuel every text that is short enough is read as what it was written from. -/
structure Rereads (fuel : Nat) : Prop where
  value {j : Json} {levels : Nat} {rest : List Char} (hplain : j.IsPlain)
      (hdepth : j.depth ≤ levels) (hfuel : 2 * j.compact.toList.length < fuel)
      (hrest : Ends rest) :
    readValue fuel levels (j.compact.toList ++ rest) = (j, some rest)
  items {j : Json} {items : List Json} {levels : Nat} {rest : List Char}
      (hplain : ∀ k ∈ j :: items, k.IsPlain) (hdepth : depthOfItems (j :: items) ≤ levels)
      (hfuel : 2 * (itemsText (j :: items)).length + 1 < fuel) :
    readItems fuel levels (itemsText (j :: items) ++ ']' :: rest) = (j :: items, some rest)
  members {m : String × Json} {members : List (String × Json)} {levels : Nat} {rest : List Char}
      (hplain : ∀ n ∈ m :: members, n.2.IsPlain) (hdepth : depthOfMembers (m :: members) ≤ levels)
      (hfuel : 2 * (membersText (m :: members)).length + 1 < fuel) :
    readMembers fuel levels (membersText (m :: members) ++ '\x7d' :: rest) =
      (m :: members, some rest)

namespace Rereads

variable {fuel levels : Nat} {rest : List Char}

theorem value_succ (ih : Rereads fuel) {j : Json} (hplain : j.IsPlain) (hdepth : j.depth ≤ levels)
    (hfuel : 2 * j.compact.toList.length < fuel + 1) (hrest : Ends rest) :
    readValue (fuel + 1) levels (j.compact.toList ++ rest) = (j, some rest) := by
  cases j with
  | null => rfl
  | bool b => cases b <;> rfl
  | int n => exact readValue_number hplain hrest
  | str s => exact readValue_str fuel levels s rest
  | arr items =>
      rw [isPlain_arr] at hplain
      rw [depth] at hdepth
      rw [toList_compact_arr] at hfuel ⊢
      rw [List.length_cons, List.length_append, List.length_singleton] at hfuel
      rw [List.cons_append, List.append_assoc]
      cases items with
      | nil => exact readValue_arr_nil (by omega) fuel rest
      | cons j items =>
          have hbegins := begins_itemsText (hplain j List.mem_cons_self) items (']' :: rest)
          exact readValue_arr (by omega) hbegins (ih.items hplain (by omega) (by omega))
  | obj members =>
      rw [isPlain_obj] at hplain
      rw [depth] at hdepth
      rw [toList_compact_obj] at hfuel ⊢
      rw [List.length_cons, List.length_append, List.length_singleton] at hfuel
      rw [List.cons_append, List.append_assoc]
      cases members with
      | nil => exact readValue_obj_nil (by omega) fuel rest
      | cons m members =>
          have hmembers : readMembers fuel (levels - 1)
              (membersText (m :: members) ++ '\x7d' :: rest) = (m :: members, some rest) :=
            ih.members hplain (by omega) (by omega)
          obtain ⟨cs, hcs⟩ := membersText_cons m members
          rw [hcs] at hmembers ⊢
          exact readValue_obj (by omega) hmembers
  | real lexeme => cases hplain
  | unreadable => cases hplain
  | broken => cases hplain

theorem items_succ (ih : Rereads fuel) {j : Json} {items : List Json}
    (hplain : ∀ k ∈ j :: items, k.IsPlain) (hdepth : depthOfItems (j :: items) ≤ levels)
    (hfuel : 2 * (itemsText (j :: items)).length + 1 < fuel + 1) :
    readItems (fuel + 1) levels (itemsText (j :: items) ++ ']' :: rest) =
      (j :: items, some rest) := by
  obtain ⟨hj, hitems⟩ := List.forall_mem_cons.mp hplain
  rw [depthOfItems] at hdepth
  cases items with
  | nil =>
      rw [itemsText_singleton] at hfuel ⊢
      exact readItems_last (ih.value hj (by omega) (by omega) (ends_cons (by simp) rest))
  | cons k items =>
      rw [itemsText_cons_cons] at hfuel ⊢
      rw [List.length_append, List.length_cons] at hfuel
      rw [List.append_assoc]
      exact readItems_more (ih.value hj (by omega) (by omega) (ends_cons (by simp) _))
        (ih.items hitems (by omega) (by omega))

theorem members_succ (ih : Rereads fuel) {m : String × Json} {members : List (String × Json)}
    (hplain : ∀ n ∈ m :: members, n.2.IsPlain) (hdepth : depthOfMembers (m :: members) ≤ levels)
    (hfuel : 2 * (membersText (m :: members)).length + 1 < fuel + 1) :
    readMembers (fuel + 1) levels (membersText (m :: members) ++ '\x7d' :: rest) =
      (m :: members, some rest) := by
  obtain ⟨hm, hmembers⟩ := List.forall_mem_cons.mp hplain
  obtain ⟨name, j⟩ := m
  rw [depthOfMembers] at hdepth
  cases members with
  | nil =>
      rw [membersText_singleton] at hfuel ⊢
      rw [List.length_append, List.length_cons] at hfuel
      rw [List.append_assoc]
      exact readMembers_last (ih.value hm (by omega) (by omega) (ends_cons (by simp) rest))
  | cons n members =>
      rw [membersText_cons_cons] at hfuel ⊢
      rw [List.length_append, List.length_cons, List.length_append, List.length_cons] at hfuel
      rw [List.append_assoc, List.cons_append, List.append_assoc]
      exact readMembers_more (ih.value hm (by omega) (by omega) (ends_cons (by simp) _))
        (ih.members hmembers (by omega) (by omega))

end Rereads

theorem rereads (fuel : Nat) : Rereads fuel := by
  induction fuel with
  | zero => exact ⟨fun _ _ h _ => by omega, fun _ _ h => by omega, fun _ _ h => by omega⟩
  | succ fuel ih => exact ⟨ih.value_succ, ih.items_succ, ih.members_succ⟩

/-- The text of a plain value is that value again, and nothing follows it. -/
theorem read_compact {j : Json} (hplain : j.IsPlain) (hdepth : j.depth ≤ maxLevels) :
    read j.compact = (j, true) := by
  have hread : readValue (2 * j.compact.toList.length + 2) maxLevels (j.compact.toList ++ []) =
      (j, some []) :=
    (rereads _).value hplain hdepth (by omega) nofun
  rw [List.append_nil] at hread
  rw [read]
  simp [hread, skipSpace]

/-- A value is read back from its written form, and from the text of that form unless it nests
deeper than the reader goes. -/
def ReadsBack {α : Type} (decode : Decoder α) (encode : α → Json) (a : α) : Prop :=
  decode (encode a) = .ok a ∧
    ((encode a).depth ≤ maxLevels → decodeText decode (encode a).compact = .ok a)

namespace Lossless

variable {α : Type} {decode : Decoder α} {encode : α → Json} {Fits : α → Prop}

theorem readsBack (h : Lossless decode encode Fits) {a : α} (ha : Fits a) :
    ReadsBack decode encode a := by
  refine ⟨h.decode_encode ha, fun hdepth => ?_⟩
  rw [decodeText, read_compact (h.plain ha) hdepth]
  exact bind_eq_ok_iff.mpr ⟨a, h.decode_encode ha, rfl⟩

/-- Writing what has been read, and reading it again, changes nothing any more. -/
theorem readsBack_of_decode (h : Lossless decode encode Fits) {j : Json} {a : α}
    (hj : decode j = .ok a) : ReadsBack decode encode a :=
  h.readsBack (h.fits hj)

end Lossless

end Newswire.Json
