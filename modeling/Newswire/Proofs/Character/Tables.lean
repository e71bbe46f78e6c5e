import Newswire.Character.Recent
import Newswire.Pattern.Node
import Newswire.Proofs.Character.Sets

/-!
# What tables say about ASCII

A table lists its characters in increasing order, so that its first few numbers settle which
characters below the next one it has. Within ASCII only the letters are alphabetic, and only the
digits are numbers.
-/

namespace Newswire

namespace CharSet

section Holding

variable {s t : CharSet} {rs : List (Nat × Nat)} {out : Array (Nat × Nat)} {r : Nat × Nat} {n : Nat}

theorem covers_of_search {ranges : Array (Nat × Nat)} {fuel lo hi : Nat} (hhi : hi ≤ ranges.size)
    (h : search ranges n fuel lo hi = true) : Covers ranges.toList n := by
  induction fuel generalizing lo hi with
  | zero => cases h
  | succ fuel ih =>
      rw [search] at h
      split at h
      · next hlt =>
        have hmid : (lo + hi) / 2 < ranges.size := by omega
        have hget : ranges.getD ((lo + hi) / 2) (0, 0) = ranges[(lo + hi) / 2] := dif_pos hmid
        simp only [hget] at h
        split at h
        · exact ih (by omega) h
        · split at h
          · exact ih hhi h
          · exact ⟨_, Array.getElem_mem_toList hmid, by omega, by omega⟩
      · cases h

theorem holds_of_mem {c : Char} (h : s.mem c = true) : s.Holds c.toNat :=
  covers_of_search (Nat.le_refl _) h

/-- A range that is added brings no characters but its own. -/
theorem covers_of_append (h : Covers (append out r).toList n) :
    Covers out.toList n ∨ (r.1 ≤ n ∧ n ≤ r.2) := by
  unfold append at h
  split at h
  · exact .inl h
  · rcases Nat.eq_zero_or_pos out.size with hsize | hsize
    · obtain rfl := Array.eq_empty_of_size_eq_zero hsize
      simpa using h
    · obtain ⟨front, ⟨a, b⟩, rfl⟩ := Array.eq_push_of_size_ne_zero (Nat.ne_of_gt hsize)
      simp only [Array.back?_push, Array.pop_push] at h
      split at h
      · simp only [Array.toList_push, covers_append, covers_cons, covers_nil, or_false] at h ⊢
        rcases h with hn | hn
        · exact .inl (.inl hn)
        · -- The last range has been made longer.
          by_cases hle : n ≤ b
          · exact .inl (.inr ⟨hn.1, hle⟩)
          · exact .inr (by omega)
      · simpa only [Array.toList_push, covers_append, covers_cons, covers_nil, or_false] using h

theorem holds_of_ofRanges (h : (ofRanges rs).Holds n) : Covers rs n := by
  have hfoldl (ss : List (Nat × Nat)) (out : Array (Nat × Nat))
      (hn : Covers (ss.foldl append out).toList n) : Covers out.toList n ∨ Covers ss n := by
    induction ss generalizing out with
    | nil => exact .inl hn
    | cons r ss ih =>
        rcases ih (append out r) hn with hout | hss
        · exact (covers_of_append hout).imp_right fun hr => covers_cons.mpr (.inl hr)
        · exact .inr (covers_cons.mpr (.inr hss))
  have hsorted := (hfoldl _ _ h).resolve_left covers_nil
  exact hsorted.perm (List.mergeSort_perm ..)

theorem holds_of_union (h : (s.union t).Holds n) : s.Holds n ∨ t.Holds n := by
  unfold union at h
  split at h
  · exact .inr h
  · split at h
    · exact .inl h
    · exact covers_append.mp (holds_of_ofRanges h)

theorem holds_of_unions {sets : List CharSet} (h : (Character.unions sets).Holds n) :
    ∃ s ∈ sets, s.Holds n := by
  obtain ⟨r, hr, hn⟩ := holds_of_ofRanges h
  obtain ⟨s, hs, hr⟩ := List.mem_flatMap.mp hr
  exact ⟨s, hs, r, hr, hn⟩

/-- Below the number that comes next in a table there is nothing that is not there already. -/
theorem covers_of_ofRuns {start : Nat} {runs : List Nat}
    (h : Covers (ofRuns start out runs).toList n) :
    Covers out.toList n ∨ start + runs.headD 0 ≤ n := by
  fun_induction ofRuns start out runs with
  | case1 start out skip take rest first ih =>
      rcases ih h with hn | hle
      · exact (covers_of_append hn).imp_right fun hr => hr.1
      · exact .inr (by simp only [List.headD_cons]; omega)
  | case2 => exact .inl h

theorem ofTable_ofList (cs : List Char) :
    ofTable (String.ofList cs) = ⟨ofRuns 0 #[] ((Text.words cs).map hexNumber)⟩ := by
  rw [ofTable, numbers, String.toList_ofList]

end Holding

end CharSet

namespace Character

open CharSet

variable {n : Nat}

/-- The table that begins with a number has no character below it. -/
theorem le_of_holds_table {s : CharSet} {skip : Nat}
    (hs : ∃ runs, s = ⟨ofRuns 0 #[] (skip :: runs)⟩) (h : s.Holds n) : skip ≤ n := by
  obtain ⟨runs, rfl⟩ := hs
  simpa using covers_of_ofRuns h

set_option maxRecDepth 20000 in
theorem alphabetic_table : ∃ runs, alphabetic =
    ⟨ofRuns 0 #[] (0x41 :: 0x1a :: 6 :: 0x1a :: 0x2f :: runs)⟩ := ⟨_, ofTable_ofList _⟩

set_option maxRecDepth 20000 in
theorem decimalNumber_table : ∃ runs, decimalNumber =
    ⟨ofRuns 0 #[] (0x30 :: 0xa :: 0x626 :: runs)⟩ := ⟨_, ofTable_ofList _⟩

theorem letter_of_holds_alphabetic (hn : n < 0x80) (h : alphabetic.Holds n) :
    (0x41 ≤ n ∧ n ≤ 0x5a) ∨ (0x61 ≤ n ∧ n ≤ 0x7a) := by
  obtain ⟨runs, hruns⟩ := alphabetic_table
  rw [hruns] at h
  have h : Covers (ofRuns 0x7b #[(0x41, 0x5a), (0x61, 0x7a)] (0x2f :: runs)).toList n := h
  simpa using (covers_of_ofRuns h).resolve_right (by simp only [List.headD_cons]; omega)

/-- Within ASCII only the letters are alphabetic. -/
theorem letter_of_alphabetic (hn : n < 0x80) (h : Recent.alphabetic.Holds n) :
    (0x41 ≤ n ∧ n ≤ 0x5a) ∨ (0x61 ≤ n ∧ n ≤ 0x7a) := by
  rcases holds_of_union h with h | h
  · exact letter_of_holds_alphabetic hn h
  · have hle : 0x88f ≤ n := le_of_holds_table ⟨_, ofTable_ofList _⟩ h
    omega

theorem digit_of_decimalNumber (hn : n < 0x80) (h : decimalNumber.Holds n) :
    0x30 ≤ n ∧ n ≤ 0x39 := by
  obtain ⟨runs, hruns⟩ := decimalNumber_table
  rw [hruns] at h
  have h : Covers (ofRuns 0x3a #[(0x30, 0x39)] (0x626 :: runs)).toList n := h
  simpa using (covers_of_ofRuns h).resolve_right (by simp only [List.headD_cons]; omega)

/-- Within ASCII only the digits are numbers. -/
theorem digit_of_number (hn : n < 0x80) (h : Recent.number.Holds n) : 0x30 ≤ n ∧ n ≤ 0x39 := by
  rcases holds_of_union h with h | h
  · obtain ⟨s, hs, h⟩ := holds_of_unions h
    simp only [List.mem_cons, List.not_mem_nil, or_false] at hs
    rcases hs with rfl | rfl | rfl
    · exact digit_of_decimalNumber hn h
    · have hle : 0x16ee ≤ n := le_of_holds_table ⟨_, ofTable_ofList _⟩ h
      omega
    · have hle : 0xb2 ≤ n := le_of_holds_table ⟨_, ofTable_ofList _⟩ h
      omega
  · have hle : 0x11de0 ≤ n := le_of_holds_table ⟨_, ofTable_ofList _⟩ h
    omega

set_option maxRecDepth 20000 in
theorem nonspacingMark_table : ∃ runs, nonspacingMark = ⟨ofRuns 0 #[] (0x300 :: runs)⟩ :=
  ⟨_, ofTable_ofList _⟩

theorem connectorPunctuation_table : ∃ runs, connectorPunctuation =
    ⟨ofRuns 0 #[] (0x5f :: 1 :: 0x1fdf :: runs)⟩ := ⟨_, ofTable_ofList _⟩

/-- Marks are all beyond ASCII. -/
theorem le_of_mark (h : mark.Holds n) : 0x300 ≤ n := by
  obtain ⟨s, hs, h⟩ := holds_of_unions h
  simp only [List.mem_cons, List.not_mem_nil, or_false] at hs
  rcases hs with rfl | rfl | rfl
  · exact le_of_holds_table nonspacingMark_table h
  · have hle : 0x903 ≤ n := le_of_holds_table ⟨_, ofTable_ofList _⟩ h
    omega
  · have hle : 0x488 ≤ n := le_of_holds_table ⟨_, ofTable_ofList _⟩ h
    omega

/-- Within ASCII the characters of words are letters, digits and the low line. -/
theorem ascii_of_wordChars (hn : n < 0x80) (h : Pattern.wordChars.Holds n) :
    (0x41 ≤ n ∧ n ≤ 0x5a) ∨ (0x61 ≤ n ∧ n ≤ 0x7a) ∨ (0x30 ≤ n ∧ n ≤ 0x39) ∨ n = 0x5f := by
  obtain ⟨s, hs, h⟩ := holds_of_unions h
  simp only [List.mem_cons, List.not_mem_nil, or_false] at hs
  rcases hs with rfl | rfl | rfl | rfl | rfl
  · exact (letter_of_holds_alphabetic hn h).imp_right Or.inl
  · have hle := le_of_mark h
    omega
  · exact Or.inr (Or.inr (Or.inl (digit_of_decimalNumber hn h)))
  · obtain ⟨runs, hruns⟩ := connectorPunctuation_table
    rw [hruns] at h
    have h : Covers (ofRuns 0x60 #[(0x5f, 0x5f)] (0x1fdf :: runs)).toList n := h
    have hline : 0x5f ≤ n ∧ n ≤ 0x5f := by
      simpa using (covers_of_ofRuns h).resolve_right (by simp only [List.headD_cons]; omega)
    omega
  · have hle : 0x200c ≤ n := le_of_holds_table ⟨_, ofTable_ofList _⟩ h
    omega

end Character

end Newswire
