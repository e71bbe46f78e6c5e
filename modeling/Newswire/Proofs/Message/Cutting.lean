import Mathlib.Data.List.Infix
import Newswire.Message.Cut

/-!
# The pieces of a text

A text that does not fit is cut as far back as there is room, behind the last separator, or behind
the last blank if there is no separator, or else where the room ends. Every cut takes something, so
that the text comes to an end, and the pieces together are the text.
-/

namespace Newswire.Message

def EndsWithSeparator (separators : List (List Char)) (text : List Char) : Prop :=
  ∃ s ∈ separators, s <:+ text

def EndsWithBlank (text : List Char) : Prop := ∃ c ∈ text.getLast?, Text.isBlank c = true

/-- Some beginning of the text within the room has the property. -/
def OccursWithin (P : List Char → Prop) (room : Nat) (text : List Char) : Prop :=
  ∃ start, start <+: text ∧ start.length ≤ room ∧ P start

/-- The longest beginning of a text within the room that has the property. -/
structure IsLongest (P : List Char → Prop) (room : Nat) (text piece : List Char) : Prop where
  start : piece <+: text
  fits : piece.length ≤ room
  holds : P piece
  longest : ∀ other, other <+: text → other.length ≤ room → P other → other.length ≤ piece.length

/-- The piece that is cut off from the front of a text that does not fit. -/
inductive IsCut (separators : List (List Char)) (room : Nat) (text piece : List Char) : Prop where
  | separator :
      IsLongest (EndsWithSeparator separators) room text piece → IsCut separators room text piece
  | blank :
      ¬ OccursWithin (EndsWithSeparator separators) room text →
        IsLongest EndsWithBlank room text piece → IsCut separators room text piece
  | anywhere :
      ¬ OccursWithin (EndsWithSeparator separators) room text →
        ¬ OccursWithin EndsWithBlank room text →
          piece <+: text → piece.length = room → IsCut separators room text piece

/-- The pieces of a text, from the front. -/
inductive AreCuts (separators : List (List Char)) (room : Nat) :
    List Char → List (List Char) → Prop where
  | empty : AreCuts separators room [] []
  | last {text : List Char} : text ≠ [] → text.length ≤ room → AreCuts separators room text [text]
  | cut {text piece rest : List Char} {more : List (List Char)} :
      room < text.length → IsCut separators room text piece → piece ++ rest = text →
        AreCuts separators room rest more → AreCuts separators room text (piece :: more)

/-- Looking at a text from its end tells whether it has the property, which the empty text has
not. -/
structure Recognises (stops : List Char → Bool) (P : List Char → Prop) : Prop where
  iff : ∀ s, stops s.reverse = true ↔ P s
  ne_nil : ∀ s, P s → s ≠ []

section LastStop

variable {stops : List Char → Bool}

theorem length_le_lastStop {reversed s : List Char} (hs : s <:+ reversed) (hne : s ≠ [])
    (h : stops s = true) : s.length ≤ lastStop stops reversed := by
  induction reversed with
  | nil => exact absurd (List.suffix_nil.mp hs) hne
  | cons c rest ih =>
      rw [lastStop]
      split
      · exact hs.length_le
      · next hno =>
        rcases List.suffix_cons_iff.mp hs with rfl | hs
        · exact absurd h hno
        · exact ih hs

theorem exists_of_lastStop_pos {reversed : List Char} (h : 0 < lastStop stops reversed) :
    ∃ s, s <:+ reversed ∧ s.length = lastStop stops reversed ∧ stops s = true := by
  induction reversed with
  | nil => cases h
  | cons c rest ih =>
      rw [lastStop] at h ⊢
      split at h
      · next hc => exact ⟨c :: rest, List.suffix_rfl, by simp [hc], hc⟩
      · next hc =>
        obtain ⟨s, hs, hlength, hstops⟩ := ih h
        exact ⟨s, hs.trans (List.suffix_cons c rest), by simpa [hc] using hlength, hstops⟩

variable {P : List Char → Prop} {room : Nat} {text : List Char}

/-- The search from the end of the room passes over nothing. -/
theorem length_le_lastStop_take (hP : Recognises stops P) {s : List Char} (hs : s <+: text)
    (hroom : s.length ≤ room) (hholds : P s) :
    s.length ≤ lastStop stops (text.take room).reverse := by
  have hsuffix : s.reverse <:+ (text.take room).reverse :=
    List.reverse_suffix.mpr (List.prefix_take_iff.mpr ⟨hs, hroom⟩)
  have hle := length_le_lastStop hsuffix (by simpa using hP.ne_nil s hholds)
    ((hP.iff s).mpr hholds)
  rwa [List.length_reverse] at hle

theorem not_occursWithin (hP : Recognises stops P)
    (h : lastStop stops (text.take room).reverse = 0) : ¬ OccursWithin P room text := by
  rintro ⟨s, hs, hroom, hholds⟩
  have hle := length_le_lastStop_take hP hs hroom hholds
  rw [h, Nat.le_zero] at hle
  exact hP.ne_nil s hholds (List.length_eq_zero_iff.mp hle)

/-- What the search from the end of the room finds first is the longest. -/
theorem isLongest_lastStop (hP : Recognises stops P)
    (h : 0 < lastStop stops (text.take room).reverse) :
    IsLongest P room text (text.take (lastStop stops (text.take room).reverse)) := by
  obtain ⟨s, hs, hlength, hstops⟩ := exists_of_lastStop_pos h
  obtain ⟨hstart, hfits⟩ : s.reverse <+: text ∧ s.reverse.length ≤ room :=
    List.prefix_take_iff.mp (List.reverse_suffix.mp (by simpa using hs))
  have hpiece : text.take (lastStop stops (text.take room).reverse) = s.reverse := by
    rw [← hlength, ← List.length_reverse]
    exact (List.prefix_iff_eq_take.mp hstart).symm
  rw [hpiece]
  constructor
  · exact hstart
  · exact hfits
  · exact (hP.iff _).mp (by simpa using hstops)
  · intro other hother hroom hholds
    rw [List.length_reverse, hlength]
    exact length_le_lastStop_take hP hother hroom hholds

end LastStop

section Stops

variable {separators : List (List Char)}

theorem recognises_endsWithAny (hsep : [] ∉ separators) :
    Recognises (endsWithAny separators) (EndsWithSeparator separators) := by
  constructor
  · intro s
    simp [endsWithAny, EndsWithSeparator, List.isPrefixOf_iff_prefix]
  · rintro _ ⟨t, ht, hsuffix⟩ rfl
    exact hsep (List.suffix_nil.mp hsuffix ▸ ht)

theorem recognises_endsWithBlank : Recognises endsWithBlank EndsWithBlank := by
  constructor
  · intro s
    rw [EndsWithBlank, ← List.head?_reverse]
    cases s.reverse with
    | nil => simp [endsWithBlank]
    | cons c rest => simp [endsWithBlank]
  · rintro _ ⟨c, hc, -⟩ rfl
    cases hc

theorem Cutting.nil_not_mem_separators (c : Cutting) : [] ∉ c.separators := by
  unfold separators
  split
  · split
    · simp
    · next s hs => simpa using Ne.symm hs
  · simp

end Stops

section Cut

variable {separators : List (List Char)} {room : Nat} {text : List Char}

/-- The piece that is taken is the one to be cut off. -/
theorem isCut_take (hsep : [] ∉ separators) (hroom : room < text.length) :
    IsCut separators room text (text.take (cutLength separators (text.take room))) := by
  have hany := recognises_endsWithAny hsep
  unfold cutLength
  dsimp only
  split
  · next n hn =>
    apply IsCut.separator
    have hlongest := isLongest_lastStop hany (hn ▸ Nat.succ_pos n)
    rwa [hn] at hlongest
  · next hzero =>
    have hnone := not_occursWithin hany hzero
    split
    · next n hn =>
      apply IsCut.blank hnone
      have hlongest := isLongest_lastStop recognises_endsWithBlank (hn ▸ Nat.succ_pos n)
      rwa [hn] at hlongest
    · next hzero =>
      apply IsCut.anywhere hnone (not_occursWithin recognises_endsWithBlank hzero)
      · exact List.take_prefix ..
      · simp [Nat.le_of_lt hroom]

variable {piece : List Char}

theorem IsCut.length_le (h : IsCut separators room text piece) : piece.length ≤ room := by
  cases h with
  | separator h => exact h.fits
  | blank _ h => exact h.fits
  | anywhere _ _ _ h => exact Nat.le_of_eq h

theorem IsCut.ne_nil (hsep : [] ∉ separators) (hroom : 0 < room)
    (h : IsCut separators room text piece) : piece ≠ [] := by
  cases h with
  | separator h => exact (recognises_endsWithAny hsep).ne_nil piece h.holds
  | blank _ h => exact recognises_endsWithBlank.ne_nil piece h.holds
  | anywhere _ _ _ h => exact List.ne_nil_of_length_pos (h ▸ hroom)

/-- Every cut takes something. -/
theorem cutLength_pos (hsep : [] ∉ separators) (hroom : 0 < room) (h : room < text.length) :
    0 < cutLength separators (text.take room) := by
  have hne := (isCut_take hsep h).ne_nil hsep hroom
  exact Nat.pos_of_ne_zero fun hzero => hne (by rw [hzero, List.take_zero])

theorem areCuts_pieces (hsep : [] ∉ separators) (hroom : 0 < room) (text : List Char) :
    AreCuts separators room text (pieces separators room text) := by
  fun_induction pieces separators room text with
  | case1 => exact .empty
  | case2 c rest h => exact .last (List.cons_ne_nil c rest) h
  | case3 c rest h n ih =>
      have hlt : room < (c :: rest).length := Nat.lt_of_not_le h
      -- No cut is empty, so that the least length of one character plays no part.
      have hn : n = cutLength separators ((c :: rest).take room) :=
        Nat.max_eq_right (cutLength_pos hsep hroom hlt)
      have hcut : IsCut separators room (c :: rest) ((c :: rest).take n) :=
        hn ▸ isCut_take hsep hlt
      exact .cut hlt hcut (List.take_append_drop ..) ih

namespace AreCuts

variable {chunks : List (List Char)}

theorem flatten (h : AreCuts separators room text chunks) : chunks.flatten = text := by
  induction h with
  | empty => rfl
  | last => simp
  | cut _ _ htext _ ih => rw [List.flatten_cons, ih, htext]

theorem ne_nil (hsep : [] ∉ separators) (hroom : 0 < room)
    (h : AreCuts separators room text chunks) : ∀ piece ∈ chunks, piece ≠ [] := by
  induction h with
  | empty => simp
  | last hne _ => simpa using hne
  | cut _ hcut _ _ ih => exact List.forall_mem_cons.mpr ⟨hcut.ne_nil hsep hroom, ih⟩

theorem length_le (h : AreCuts separators room text chunks) :
    ∀ piece ∈ chunks, piece.length ≤ room := by
  induction h with
  | empty => simp
  | last _ hle => simpa using hle
  | cut _ hcut _ _ ih => exact List.forall_mem_cons.mpr ⟨hcut.length_le, ih⟩

end AreCuts

end Cut

namespace Cutting

variable (c : Cutting) (limit : Nat)

/-- The markers that are put around pieces; none if together they would fill the limit. -/
def kept : List Char × List Char :=
  let before := (c.prepended.getD "").toList
  let after := (c.appended.getD "").toList
  if limit ≤ before.length + after.length then ([], []) else (before, after)

def room : Nat := limit - ((c.kept limit).1.length + (c.kept limit).2.length)

/-- A piece between the markers. -/
def wrap (piece : List Char) : List Char := (c.kept limit).1 ++ piece ++ (c.kept limit).2

theorem markers_eq : markers c limit = ((c.kept limit).1, (c.kept limit).2, c.room limit) := by
  unfold markers room kept
  dsimp only
  split
  · next hlt => rw [if_neg (Nat.not_le.mpr hlt)]
  · next hle => simp [Nat.not_lt.mp hle]

variable {limit}

theorem kept_lt (h : 0 < limit) : (c.kept limit).1.length + (c.kept limit).2.length < limit := by
  unfold kept
  dsimp only
  split
  · exact h
  · next hlt => exact Nat.not_le.mp hlt

theorem room_pos (h : 0 < limit) : 0 < c.room limit := Nat.sub_pos_of_lt (c.kept_lt h)

theorem length_wrap_le (h : 0 < limit) {piece : List Char} (hp : piece.length ≤ c.room limit) :
    (c.wrap limit piece).length ≤ limit := by
  have hkept := c.kept_lt h
  simp only [wrap, room, List.length_append] at hp ⊢
  omega

end Cutting

/-- How a text that does not fit is cut into pieces and sent in parts. -/
structure AreParts (c : Cutting) (limit : Nat) (text : List Char)
    (chunks parts : List (List Char)) : Prop where
  cuts : AreCuts c.separators (c.room limit) text chunks
  wrapped : parts = chunks.map (c.wrap limit)
  fits : ∀ part ∈ parts, part.length ≤ limit
  filled : ∀ piece ∈ chunks, piece ≠ []
  whole : chunks.flatten = text

theorem areParts_pieces (c : Cutting) {limit : Nat} (hlimit : 0 < limit) (text : List Char) :
    AreParts c limit text (pieces c.separators (c.room limit) text)
      ((pieces c.separators (c.room limit) text).map (c.wrap limit)) := by
  have hcuts := areCuts_pieces c.nil_not_mem_separators (c.room_pos hlimit) text
  constructor
  · exact hcuts
  · rfl
  · intro part hpart
    obtain ⟨piece, hpiece, rfl⟩ := List.mem_map.mp hpart
    exact c.length_wrap_le hlimit (hcuts.length_le piece hpiece)
  · exact hcuts.ne_nil c.nil_not_mem_separators (c.room_pos hlimit)
  · exact hcuts.flatten

theorem parts_of_length_le {c : Cutting} {limit : Nat} {text : List Char}
    (h : text.length ≤ max limit 1) : parts c limit text = [text] := if_pos h

theorem parts_of_length_lt {c : Cutting} {limit : Nat} {text : List Char}
    (h : max limit 1 < text.length) :
    parts c limit text =
      (pieces c.separators (c.room (max limit 1)) text).map (c.wrap (max limit 1)) := by
  unfold parts
  dsimp only
  rw [if_neg (Nat.not_le.mpr h), Cutting.markers_eq]
  rfl

/-- A text that fits is its only part. Any other text is cut into pieces, which are sent between
the markers; and where there is to be one part only, it is the first piece. -/
theorem parts_areParts (c : Cutting) (limit : Nat) (text : List Char) :
    let n := max limit 1
    (text.length ≤ n → parts c limit text = [text]) ∧
      (n < text.length → ∃ chunks, AreParts c n text chunks (parts c limit text)) ∧
      ∃ chunks, AreCuts c.separators n text chunks ∧ firstPart c limit text = chunks.headD [] := by
  intro n
  have hn : 0 < n := by omega
  refine ⟨parts_of_length_le, ?_, ?_⟩
  · intro hlt
    rw [parts_of_length_lt hlt]
    exact ⟨_, areParts_pieces c hn text⟩
  · refine ⟨_, areCuts_pieces c.nil_not_mem_separators hn text, ?_⟩
    rw [firstPart, List.headD_eq_head?_getD]

end Newswire.Message
