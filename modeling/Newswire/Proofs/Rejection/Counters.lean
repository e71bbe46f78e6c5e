import Mathlib.Data.List.Basic
import Newswire.Rejection.Counters

/-!
# Counting and setting back

A rejection adds one to its own counter and leaves the others as they are. After the counters of a
feed were set back all of them read zero, and those of other feeds what they read before. Setting
them back once more changes nothing.
-/

namespace Newswire.Counters

theorem of_get? {cs : Counters} {feed : String} {scope : Scope} {c : Counter}
    (h : cs.get? feed scope = some c) : c.feed = feed ∧ c.scope = scope := by
  have hf := List.find?_some h
  simpa [isFor] using hf

/-- A change that leaves feeds and scopes alone is seen through every look-up. -/
theorem get?_map (cs : Counters) {g : Counter → Counter}
    (hg : ∀ c, (g c).feed = c.feed ∧ (g c).scope = c.scope) (feed : String) (scope : Scope) :
    get? ⟨cs.rows.map g⟩ feed scope = (cs.get? feed scope).map g := by
  have hf : isFor feed scope ∘ g = isFor feed scope := by
    funext c
    simp [isFor, hg c]
  rw [get?, get?, List.find?_map, hf]

/-- The counter after it was counted up to `n`. -/
def raised (feed : String) (scope : Scope) (n : Nat) (now : Int) (c : Counter) : Counter :=
  if isFor feed scope c then { c with attempts := n, updated := now } else c

theorem raised_keeps (feed : String) (scope : Scope) (n : Nat) (now : Int) (c : Counter) :
    (raised feed scope n now c).feed = c.feed ∧ (raised feed scope n now c).scope = c.scope := by
  unfold raised
  split <;> exact ⟨rfl, rfl⟩

theorem increment_eq (cs : Counters) (feed : String) (scope : Scope) (now : Int) :
    let n := cs.attempts feed scope + 1
    cs.increment feed scope now =
      match cs.get? feed scope with
      | some _ => (n, ⟨cs.rows.map (raised feed scope n now)⟩)
      | none => (n, ⟨cs.rows ++ [⟨feed, scope, n, now, now⟩]⟩) := rfl

theorem increment_fst (cs : Counters) (feed : String) (scope : Scope) (now : Int) :
    (cs.increment feed scope now).1 = cs.attempts feed scope + 1 := by
  rw [increment_eq]
  cases cs.get? feed scope <;> rfl

/-- A rejection is counted by its own counter, or by a new one. -/
theorem increment_get? (cs : Counters) (feed : String) (scope : Scope) (now : Int) :
    (cs.increment feed scope now).2.get? feed scope =
      some (match cs.get? feed scope with
        | some c => { c with attempts := c.attempts + 1, updated := now }
        | none => ⟨feed, scope, 1, now, now⟩) := by
  rw [increment_eq, attempts]
  cases hc : cs.get? feed scope with
  | none =>
      have hn : cs.rows.find? (isFor feed scope) = none := hc
      simp [get?, List.find?_append, hn, isFor]
  | some c =>
      dsimp only
      rw [get?_map cs (raised_keeps _ _ _ _), hc, Option.map_some, raised,
        if_pos (by simp [isFor, of_get? hc])]
      rfl

/-- A rejection adds one to its counter. -/
theorem increment_attempts (cs : Counters) (feed : String) (scope : Scope) (now : Int) :
    (cs.increment feed scope now).2.attempts feed scope = cs.attempts feed scope + 1 := by
  rw [attempts, increment_get?, attempts]
  cases cs.get? feed scope <;> rfl

/-- A rejection is counted alike where its counter reads the same. -/
theorem increment_alike {cs cs' : Counters} {feed : String} {scope : Scope}
    (h : cs.get? feed scope = cs'.get? feed scope) (now : Int) :
    (cs.increment feed scope now).1 = (cs'.increment feed scope now).1 ∧
      (cs.increment feed scope now).2.get? feed scope =
        (cs'.increment feed scope now).2.get? feed scope := by
  constructor
  · rw [increment_fst, increment_fst, attempts, attempts, h]
  · rw [increment_get?, increment_get?, h]

/-- The other counters are left as they are. -/
theorem increment_get?_of_ne (cs : Counters) {feed other : String} {scope another : Scope}
    (h : other = feed → another ≠ scope) (now : Int) :
    (cs.increment feed scope now).2.get? other another = cs.get? other another := by
  rw [increment_eq]
  cases cs.get? feed scope with
  | none =>
      have hn : isFor other another
          ⟨feed, scope, cs.attempts feed scope + 1, now, now⟩ = false := by
        simpa [isFor] using fun he hs => h he.symm hs.symm
      simp [get?, List.find?_append, hn]
  | some _ =>
      dsimp only
      rw [get?_map cs (raised_keeps _ _ _ _)]
      cases hc : cs.get? other another with
      | none => rfl
      | some c =>
          obtain ⟨rfl, rfl⟩ := of_get? hc
          have hn : isFor feed scope c = false := by simpa [isFor] using h
          rw [Option.map_some, raised, if_neg (by simp [hn])]

theorem increment_attempts_of_ne (cs : Counters) {feed other : String} {scope another : Scope}
    (h : other = feed → another ≠ scope) (now : Int) :
    (cs.increment feed scope now).2.attempts other another = cs.attempts other another := by
  rw [attempts, attempts, increment_get?_of_ne cs h]

theorem reset_get? (cs : Counters) (feed other : String) (scope : Scope) (now : Int) :
    (cs.reset feed now).2.get? other scope =
      (cs.get? other scope).map fun c =>
        if isRunning feed c then { c with attempts := 0, updated := now } else c := by
  refine get?_map cs (fun c => ?_) other scope
  split <;> exact ⟨rfl, rfl⟩

/-- After a clean run every count of the feed is zero. -/
theorem reset_attempts (cs : Counters) (feed : String) (scope : Scope) (now : Int) :
    (cs.reset feed now).2.attempts feed scope = 0 := by
  rw [attempts, reset_get?]
  cases hc : cs.get? feed scope with
  | none => rfl
  | some c =>
      have hf : c.feed = feed := (of_get? hc).1
      by_cases hr : isRunning feed c = true
      · simp [hr]
      · have ha : c.attempts = 0 := by simpa [isRunning, hf] using hr
        simp [hr, ha]

/-- The counters of other feeds are left as they are. -/
theorem reset_get?_of_ne (cs : Counters) {feed other : String} (h : other ≠ feed) (scope : Scope)
    (now : Int) : (cs.reset feed now).2.get? other scope = cs.get? other scope := by
  rw [reset_get?]
  cases hc : cs.get? other scope with
  | none => rfl
  | some c =>
      have hf : c.feed = other := (of_get? hc).1
      have hr : isRunning feed c = false := by simp [isRunning, hf, h]
      simp [hr]

theorem reset_attempts_of_ne (cs : Counters) {feed other : String} (h : other ≠ feed)
    (scope : Scope) (now : Int) :
    (cs.reset feed now).2.attempts other scope = cs.attempts other scope := by
  rw [attempts, attempts, reset_get?_of_ne cs h]

/-- Counters that are at zero are not touched. -/
theorem reset_reset (cs : Counters) (feed : String) (now later : Int) :
    ((cs.reset feed now).2.reset feed later).2 = (cs.reset feed now).2 := by
  simp only [reset, List.map_map]
  congr 1
  refine List.map_congr_left fun c _ => ?_
  have hn : isRunning feed
      (if isRunning feed c then { c with attempts := 0, updated := now } else c) = false := by
    by_cases hr : isRunning feed c = true
    · rw [if_pos hr]
      simp [isRunning]
    · rw [if_neg hr]
      simpa using hr
  rw [Function.comp, hn]
  rfl

theorem delete_get? (cs : Counters) (feed other : String) (scope : Scope) :
    (cs.delete feed).2.get? other scope = if other = feed then none else cs.get? other scope := by
  rw [delete, get?, List.find?_filter]
  split
  · next h =>
      subst h
      refine List.find?_eq_none.mpr fun c _ => ?_
      by_cases hc : c.feed = other <;> simp [isFor, hc]
  · next h =>
      refine congrArg (List.find? · cs.rows) (funext fun c => ?_)
      by_cases hc : c.feed = other
      · simp [isFor, hc, h, beq_eq_decide]
      · simp [isFor, hc]

theorem delete_attempts (cs : Counters) (feed other : String) (scope : Scope) :
    (cs.delete feed).2.attempts other scope =
      if other = feed then 0 else cs.attempts other scope := by
  rw [attempts, delete_get?]
  split <;> rfl

end Newswire.Counters
