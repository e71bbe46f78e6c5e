import Mathlib.Data.List.MinMax
import Newswire.Message.Derivation

/-!
# Limits one after the other

A mark may make a text longer than an earlier limit on the same field allows. A second pass over the
limits changes nothing all the same: a text that is longer than the tightest of them is cut back to
its first characters, those that this limit leaves, and what the pass makes of it depends on these
characters alone. Every limit leaves them as they are.
-/

namespace Newswire.Message.Limit

variable {l : Limit} {ls before after : List Limit} {text other : String} {n : Nat}

section Shorten

theorem toList_shorten (l : Limit) (text : String) :
    (l.shorten text).toList = if l.length < text.length
      then text.toList.take l.length ++ (l.mark.getD "").toList else text.toList := by
  rw [shorten, truncate, String.length_toList]
  by_cases h : l.length < text.length
  · simp [h]
  · have hle : text.toList.length ≤ l.length := String.length_toList ▸ Nat.le_of_not_lt h
    simp [h, List.take_of_length_le hle]

theorem shorten_of_le (h : text.length ≤ l.length) : l.shorten text = text := by
  rw [← String.toList_inj, toList_shorten, if_neg (Nat.not_lt.mpr h)]

/-- Behind the characters that a limit leaves there is at most its mark. -/
theorem length_shorten_le (l : Limit) (text : String) :
    (l.shorten text).length ≤ l.length + (l.mark.getD "").length := by
  rw [← String.length_toList, toList_shorten]
  split
  · rw [List.length_append, List.length_take, String.length_toList, String.length_toList]
    omega
  · rw [String.length_toList]
    omega

theorem take_shorten (h : n ≤ l.length) (text : String) :
    (l.shorten text).toList.take n = text.toList.take n := by
  rw [toList_shorten]
  split
  · next hcut =>
      have hleft : n ≤ (text.toList.take l.length).length := by
        rw [List.length_take, String.length_toList]
        omega
      rw [List.take_append_of_le_length hleft, List.take_take, Nat.min_eq_left h]
  · rfl

/-- A text that is longer than some number stays so under a limit above that number. -/
theorem lt_length_shorten (h : n < l.length) (htext : n < text.length) :
    n < (l.shorten text).length := by
  rw [← String.length_toList, toList_shorten]
  split
  · rw [List.length_append, List.length_take, String.length_toList]
    omega
  · rwa [String.length_toList]

/-- Where a limit cuts, only what it leaves counts. -/
theorem shorten_congr (htext : l.length < text.length) (hother : l.length < other.length)
    (h : text.toList.take l.length = other.toList.take l.length) :
    l.shorten text = l.shorten other := by
  rw [← String.toList_inj, toList_shorten, toList_shorten, if_pos htext, if_pos hother, h]

end Shorten

/-- What limits on one field make of its text. -/
def shortenAll (ls : List Limit) (text : String) : String :=
  ls.foldl (fun text l => l.shorten text) text

section ShortenAll

theorem shortenAll_cons (l : Limit) (ls : List Limit) (text : String) :
    shortenAll (l :: ls) text = shortenAll ls (l.shorten text) := rfl

theorem shortenAll_concat (ls : List Limit) (l : Limit) (text : String) :
    shortenAll (ls ++ [l]) text = l.shorten (shortenAll ls text) := List.foldl_concat ..

theorem shortenAll_of_le (h : ∀ l ∈ ls, text.length ≤ l.length) : shortenAll ls text = text := by
  induction ls with
  | nil => rfl
  | cons l rest ih =>
      obtain ⟨hl, hrest⟩ := List.forall_mem_cons.mp h
      rw [shortenAll_cons, shorten_of_le hl, ih hrest]

theorem take_shortenAll (h : ∀ l ∈ ls, n ≤ l.length) (text : String) :
    (shortenAll ls text).toList.take n = text.toList.take n := by
  induction ls generalizing text with
  | nil => rfl
  | cons l rest ih =>
      obtain ⟨hl, hrest⟩ := List.forall_mem_cons.mp h
      rw [shortenAll_cons, ih hrest, take_shorten hl]

/-- Of texts that are longer than the tightest limit, only what that limit leaves counts. -/
theorem shortenAll_congr (hleast : ∀ l ∈ ls, n ≤ l.length) (htight : ∃ l ∈ ls, l.length = n)
    (htext : n < text.length) (hother : n < other.length)
    (h : text.toList.take n = other.toList.take n) :
    shortenAll ls text = shortenAll ls other := by
  induction ls generalizing text other with
  | nil => simp at htight
  | cons l rest ih =>
      obtain ⟨hl, hrest⟩ := List.forall_mem_cons.mp hleast
      rw [shortenAll_cons, shortenAll_cons]
      rcases Nat.eq_or_lt_of_le hl with rfl | hlt
      -- The first of the tightest limits makes the same of both.
      · rw [shorten_congr htext hother h]
      -- Until then both stay too long for it.
      · obtain ⟨k, hk, hkn⟩ := htight
        have hkrest : k ∈ rest := (List.mem_cons.mp hk).resolve_left fun hkl =>
          Nat.ne_of_gt hlt (hkl ▸ hkn)
        apply ih hrest ⟨k, hkrest, hkn⟩
        · exact lt_length_shorten hlt htext
        · exact lt_length_shorten hlt hother
        · rw [take_shorten hl, take_shorten hl, h]

/-- A second pass over the limits of a field changes nothing. -/
theorem shortenAll_shortenAll (ls : List Limit) (text : String) :
    shortenAll ls (shortenAll ls text) = shortenAll ls text := by
  cases htight : ls.argmin Limit.length with
  | none =>
      rw [List.argmin_eq_none.mp htight]
      rfl
  | some l =>
      have hmem : l ∈ ls := List.argmin_mem htight
      have hleast : ∀ k ∈ ls, l.length ≤ k.length := fun k hk => List.le_of_mem_argmin hk htight
      by_cases hlong : l.length < (shortenAll ls text).length
      · have htext : l.length < text.length := by
          by_contra hle
          have hnone : ∀ k ∈ ls, text.length ≤ k.length := fun k hk =>
            Nat.le_trans (Nat.le_of_not_lt hle) (hleast k hk)
          exact hle (shortenAll_of_le hnone ▸ hlong)
        exact shortenAll_congr hleast ⟨l, hmem, rfl⟩ hlong htext (take_shortenAll hleast text)
      · refine shortenAll_of_le fun k hk => ?_
        exact Nat.le_trans (Nat.le_of_not_lt hlong) (hleast k hk)

end ShortenAll

section ApplyAll

theorem get?_applyTo (fields : Fields) (l : Limit) (name : String) :
    (applyTo fields l).get? name =
      if l.field = name then (fields.get? name).map l.shorten else fields.get? name := by
  rw [applyTo]
  by_cases h : l.field = name
  · subst h
    cases hfield : fields.get? l.field with
    | none => simp [hfield]
    | some text => simp
  · rw [if_neg h]
    cases fields.get? l.field with
    | none => rfl
    | some text => rw [Fields.get?_insert, if_neg h]

/-- A field is shortened by the limits that name it. -/
theorem get?_applyAll (fields : Fields) (ls : List Limit) (name : String) :
    (applyAll fields ls).get? name =
      (fields.get? name).map (shortenAll (ls.filter (·.field == name))) := by
  induction ls generalizing fields with
  | nil => exact (Option.map_id' ..).symm
  | cons l rest ih =>
      change (applyAll (applyTo fields l) rest).get? name = _
      rw [ih, get?_applyTo, List.filter_cons]
      by_cases h : l.field = name
      · rw [if_pos h, if_pos (beq_iff_eq.mpr h), Option.map_map]
        rfl
      · rw [if_neg h, if_neg (mt beq_iff_eq.mp h)]

/-- A field that no limit names is kept. -/
theorem get?_applyAll_of_ne {name : String} (h : ∀ l ∈ ls, l.field ≠ name) (fields : Fields) :
    (applyAll fields ls).get? name = fields.get? name := by
  have hnone : ls.filter (·.field == name) = [] :=
    List.filter_eq_nil_iff.mpr fun l hl => mt beq_iff_eq.mp (h l hl)
  rw [get?_applyAll, hnone]
  exact Option.map_id' ..

/-- The last limit that names a field has the last word on its length. -/
theorem length_le_of_last (h : ∀ k ∈ after, k.field ≠ l.field) (fields : Fields)
    (htext : text ∈ (applyAll fields (before ++ l :: after)).get? l.field) :
    text.length ≤ l.length + (l.mark.getD "").length := by
  have hafter : after.filter (·.field == l.field) = [] :=
    List.filter_eq_nil_iff.mpr fun k hk => mt beq_iff_eq.mp (h k hk)
  rw [get?_applyAll, List.filter_append, List.filter_cons, if_pos (beq_self_eq_true _), hafter]
    at htext
  obtain ⟨original, -, rfl⟩ := Option.mem_map.mp htext
  rw [shortenAll_concat]
  exact length_shorten_le ..

end ApplyAll

/-- Limits settle at once: applied again they change nothing, however they cut and mark the same
field. Then a field is no longer than the last limit that names it allows, with its mark, and those
that no limit names are as they were. -/
theorem applyAll_settles (fields : Fields) (ls : List Limit) :
    applyAll (applyAll fields ls) ls = applyAll fields ls ∧
      (∀ before l after, ls = before ++ l :: after → (∀ k ∈ after, k.field ≠ l.field) →
        ∀ text ∈ (applyAll fields ls).get? l.field,
          text.length ≤ l.length + (l.mark.getD "").length) ∧
      ∀ name, (∀ l ∈ ls, l.field ≠ name) →
        (applyAll fields ls).get? name = fields.get? name := by
  refine ⟨?_, ?_, fun name h => get?_applyAll_of_ne h fields⟩
  · apply Fields.ext_get?
    intro name
    rw [get?_applyAll, get?_applyAll, Option.map_map]
    refine congrArg (Option.map · (fields.get? name)) (funext fun text => ?_)
    exact shortenAll_shortenAll ..
  · rintro before l after rfl h text htext
    exact length_le_of_last h fields htext

/-- The second mark takes the text beyond the first limit, and the third cuts into that mark. -/
example : (applyAll (.ofList [("title", "abcdefgh")])
      [⟨"title", 3, some "-"⟩, ⟨"title", 2, some "+++"⟩, ⟨"title", 4, none⟩]).get? "title" =
    some "ab++" := by
  decide

end Newswire.Message.Limit
