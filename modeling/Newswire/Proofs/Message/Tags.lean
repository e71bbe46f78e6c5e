import Mathlib.Data.List.Basic
import Newswire.Message.Markup
import Newswire.Proofs.Character.Tables

/-!
# Tags

A tag is an angle, a name in whatever case, and attributes up to the next angle. The name ends in
front of a character that is not one of words, so that it is no part of a longer name.
-/

namespace Newswire.Message.Markup

section Behind

variable {c : Char} {name cs after : List Char}

theorem behindFirst_eq_some_iff :
    behindFirst c cs = some after ↔ ∃ before, cs = before ++ c :: after ∧ c ∉ before := by
  induction cs with
  | nil => simp [behindFirst]
  | cons d rest ih =>
      rw [behindFirst]
      by_cases hd : d = c
      · rw [if_pos hd]
        constructor
        · intro h
          exact ⟨[], by rw [hd, Option.some.inj h]; rfl, List.not_mem_nil⟩
        · rintro ⟨before, hcs, hbefore⟩
          cases before with
          | nil => rw [(List.cons.inj hcs).2]
          | cons e more =>
              obtain rfl := (List.cons.inj hcs).1
              exact absurd (hd ▸ List.mem_cons_self) hbefore
      · rw [if_neg hd, ih]
        constructor
        · rintro ⟨before, rfl, hbefore⟩
          exact ⟨d :: before, rfl, List.not_mem_cons_of_ne_of_not_mem (Ne.symm hd) hbefore⟩
        · rintro ⟨before, hcs, hbefore⟩
          cases before with
          | nil => exact absurd (List.cons.inj hcs).1 hd
          | cons e more =>
              exact ⟨more, (List.cons.inj hcs).2, fun h => hbefore (List.mem_cons_of_mem _ h)⟩

theorem behindWord_eq_some_iff :
    behindWord name cs = some after ↔
      ∃ word, cs = word ++ after ∧ word.map Char.toLower = name := by
  induction name generalizing cs with
  | nil => simp [behindWord]
  | cons w name ih =>
      cases cs with
      | nil => simp [behindWord]
      | cons d rest =>
          rw [behindWord]
          constructor
          · intro h
            split at h
            · next hd =>
              obtain ⟨word, rfl, hword⟩ := ih.mp h
              exact ⟨d :: word, rfl, by rw [List.map_cons, hd, hword]⟩
            · cases h
          · rintro ⟨word, hcs, hword⟩
            cases word with
            | nil => cases hword
            | cons e word =>
                obtain ⟨rfl, rfl⟩ := List.cons.inj hcs
                obtain ⟨hd, hname⟩ := List.cons.inj hword
                rw [if_pos hd]
                exact ih.mpr ⟨word, rfl, hname⟩

/-- Angles and the mark of a link are in no word. -/
theorem ne_of_mem_wordChars (h : Pattern.wordChars.mem c = true) :
    c ≠ '<' ∧ c ≠ '>' ∧ c ≠ '!' := by
  have hword (hc : c.toNat < 0x80) := Character.ascii_of_wordChars hc (CharSet.holds_of_mem h)
  refine ⟨?_, ?_, ?_⟩
  · rintro rfl
    exact absurd (hword (by decide)) (by decide)
  · rintro rfl
    exact absurd (hword (by decide)) (by decide)
  · rintro rfl
    exact absurd (hword (by decide)) (by decide)

theorem endsWord_angle (rest : List Char) : endsWord ('>' :: rest) = true := by
  rw [endsWord, Bool.not_eq_true', Bool.eq_false_iff]
  exact fun h => (ne_of_mem_wordChars h).2.1 rfl

theorem endsWord_append (cs rest : List Char) :
    endsWord (cs ++ '>' :: rest) = endsWord cs := by
  cases cs with
  | nil => exact endsWord_angle rest
  | cons c cs => rfl

/-- What stands between the name of an opening tag and the angle that closes it. -/
theorem behindOpening_eq_some_iff :
    behindOpening name cs = some after ↔
      ∃ word attributes, cs = '<' :: (word ++ (attributes ++ '>' :: after)) ∧
        word.map Char.toLower = name ∧ endsWord attributes = true ∧ '>' ∉ attributes := by
  constructor
  · intro h
    unfold behindOpening at h
    split at h
    · next rest =>
      obtain ⟨more, hword, hmore⟩ := Option.bind_eq_some_iff.mp h
      obtain ⟨word, rfl, hname⟩ := behindWord_eq_some_iff.mp hword
      by_cases hends : endsWord more = true
      · rw [if_pos hends] at hmore
        obtain ⟨attributes, rfl, hattributes⟩ := behindFirst_eq_some_iff.mp hmore
        rw [endsWord_append] at hends
        exact ⟨word, attributes, rfl, hname, hends, hattributes⟩
      · rw [if_neg hends] at hmore
        cases hmore
    · cases h
  · rintro ⟨word, attributes, rfl, hname, hends, hattributes⟩
    have hword : behindWord name (word ++ (attributes ++ '>' :: after)) =
        some (attributes ++ '>' :: after) := behindWord_eq_some_iff.mpr ⟨word, rfl, hname⟩
    rw [behindOpening, hword, Option.bind_eq_bind, Option.bind_some, endsWord_append, if_pos hends]
    exact behindFirst_eq_some_iff.mpr ⟨attributes, rfl, hattributes⟩

end Behind

end Newswire.Message.Markup
