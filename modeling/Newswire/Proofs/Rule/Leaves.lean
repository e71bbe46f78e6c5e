import Newswire.Proofs.Rule.Paths

/-!
# The comparisons of a rule

The comparisons of a rule are listed from left to right, each with the path that leads to it. No two
of them have paths that read the same.
-/

namespace Newswire.Rule

/-- A comparison in a rule, and the path that leads to it. -/
structure Leaf where
  path : Path
  relation : Relation
  field : String
  operand : Operand

def Leaf.rule (l : Leaf) : Rule := compare l.relation l.field l.operand

mutual

/-- The comparisons of a rule at the given path, from left to right. -/
def leavesAt (path : Path) : Rule → List Leaf
  | group _ rules => leavesOf path 0 rules
  | negation rule => leavesAt (path ++ [.inner]) rule
  | compare relation field operand => [⟨path, relation, field, operand⟩]

def leavesOf (path : Path) (index : Nat) : List Rule → List Leaf
  | [] => []
  | r :: rest => leavesAt (path ++ [.item index]) r ++ leavesOf path (index + 1) rest

end

def leaves (rule : Rule) : List Leaf := leavesAt [] rule

theorem follow_group_iff {junction : Junction} {rules : List Rule} {p : Path} {l : Leaf} :
    (group junction rules).follow p = some l.rule ↔
      ∃ i r q, p = .item i :: q ∧ rules[i]? = some r ∧ r.follow q = some l.rule := by
  constructor
  · intro h
    match p with
    | [] => cases h
    | .item i :: q =>
        obtain ⟨r, hr, hq⟩ := Option.bind_eq_some_iff.mp h
        exact ⟨i, r, q, rfl, hr, hq⟩
    | .inner :: _ | .left :: _ | .right :: _ => cases h
  · rintro ⟨i, r, q, rfl, hr, hq⟩
    rw [follow_cons, part, hr, Option.bind_some, hq]

theorem follow_negation_iff {rule : Rule} {p : Path} {l : Leaf} :
    (negation rule).follow p = some l.rule ↔ ∃ q, p = .inner :: q ∧ rule.follow q = some l.rule := by
  constructor
  · intro h
    match p with
    | [] => cases h
    | .inner :: q => exact ⟨q, rfl, h⟩
    | .item _ :: _ | .left :: _ | .right :: _ => cases h
  · rintro ⟨q, rfl, hq⟩
    exact hq

theorem follow_compare_iff {relation : Relation} {field : String} {operand : Operand} {p : Path}
    {l : Leaf} :
    (compare relation field operand).follow p = some l.rule ↔
      p = [] ∧ l.rule = compare relation field operand := by
  constructor
  · intro h
    match p with
    | [] => exact ⟨rfl, (Option.some.inj h).symm⟩
    | .item _ :: _ | .inner :: _ | .left :: _ | .right :: _ => cases h
  · rintro ⟨rfl, h⟩
    exact congrArg some h.symm

mutual

/-- The comparisons of a rule are the comparisons that paths lead to. -/
theorem mem_leavesAt_iff (l : Leaf) (path : Path) :
    ∀ rule : Rule, l ∈ leavesAt path rule ↔
      ∃ p, l.path = path ++ p ∧ rule.follow p = some l.rule
  | group junction rules => by
      simp only [leavesAt, mem_leavesOf_iff l path 0 rules, follow_group_iff, Nat.zero_add]
      constructor
      · rintro ⟨i, r, q, hi, hp, hr⟩
        exact ⟨_, hp, i, r, q, rfl, hi, hr⟩
      · rintro ⟨_, hp, i, r, q, rfl, hi, hr⟩
        exact ⟨i, r, q, hi, hp, hr⟩
  | negation rule => by
      simp only [leavesAt, mem_leavesAt_iff l (path ++ [.inner]) rule, follow_negation_iff,
        List.append_assoc, List.singleton_append]
      constructor
      · rintro ⟨q, hp, hr⟩
        exact ⟨_, hp, q, rfl, hr⟩
      · rintro ⟨_, hp, q, rfl, hr⟩
        exact ⟨q, hp, hr⟩
  | compare relation field operand => by
      simp only [leavesAt, List.mem_singleton, follow_compare_iff]
      constructor
      · rintro rfl
        exact ⟨[], (List.append_nil path).symm, rfl, rfl⟩
      · rintro ⟨_, hp, rfl, hr⟩
        obtain ⟨p, r, f, o⟩ := l
        obtain ⟨rfl, rfl, rfl⟩ := Rule.compare.inj hr
        rw [List.append_nil] at hp
        exact congrArg (Leaf.mk · r f o) hp

theorem mem_leavesOf_iff (l : Leaf) (path : Path) (index : Nat) :
    ∀ rules : List Rule, l ∈ leavesOf path index rules ↔
      ∃ i r q, rules[i]? = some r ∧ l.path = path ++ .item (index + i) :: q ∧
        r.follow q = some l.rule
  | [] => by simp [leavesOf]
  | r :: rest => by
      simp only [leavesOf, List.mem_append, mem_leavesAt_iff l (path ++ [.item index]) r,
        mem_leavesOf_iff l path (index + 1) rest, List.append_assoc, List.singleton_append]
      constructor
      · rintro (⟨q, hp, hr⟩ | ⟨i, r', q, hi, hp, hr⟩)
        · exact ⟨0, r, q, rfl, hp, hr⟩
        · exact ⟨i + 1, r', q, hi, by rw [hp, Nat.add_right_comm, Nat.add_assoc], hr⟩
      · rintro ⟨i, r', q, hi, hp, hr⟩
        cases i with
        | zero =>
            obtain rfl : r = r' := Option.some.inj hi
            exact Or.inl ⟨q, hp, hr⟩
        | succ i =>
            exact Or.inr ⟨i, r', q, hi, by rw [hp, Nat.add_right_comm, Nat.add_assoc], hr⟩

end

theorem mem_leaves_iff (l : Leaf) (rule : Rule) :
    l ∈ rule.leaves ↔ rule.follow l.path = some l.rule := by
  simp [leaves, mem_leavesAt_iff]

mutual

/-- The comparisons are listed from left to right. -/
theorem leavesAt_pairwise (path : Path) :
    ∀ rule : Rule, (leavesAt path rule).Pairwise fun l m => l.path.Before m.path
  | group _ rules => leavesOf_pairwise path 0 rules
  | negation rule => leavesAt_pairwise (path ++ [.inner]) rule
  | compare .. => List.pairwise_singleton ..

theorem leavesOf_pairwise (path : Path) (index : Nat) :
    ∀ rules : List Rule, (leavesOf path index rules).Pairwise fun l m => l.path.Before m.path
  | [] => List.Pairwise.nil
  | r :: rest => by
      rw [leavesOf, List.pairwise_append]
      refine ⟨leavesAt_pairwise (path ++ [Step.item index]) r,
        leavesOf_pairwise path (index + 1) rest, ?_⟩
      intro l hl m hm
      obtain ⟨p, hp, -⟩ := (mem_leavesAt_iff l (path ++ [.item index]) r).mp hl
      obtain ⟨i, -, q, -, hq, -⟩ := (mem_leavesOf_iff m path (index + 1) rest).mp hm
      exact ⟨path, index, index + 1 + i, p, q, by simpa using hp, hq, by omega⟩

end

/-- Different comparisons have paths that read differently. -/
theorem nodup_leaves_text (rule : Rule) : (rule.leaves.map (·.path.text)).Nodup := by
  rw [List.Nodup, List.pairwise_map]
  apply (leavesAt_pairwise [] rule).imp
  intro l m h
  exact Path.text_injective.ne h.ne

end Newswire.Rule
