import Newswire.Proofs.Rule.Leaves
import Newswire.Proofs.Rule.Meaning

/-!
# What is found about the comparisons of a rule

A thorough judgement finds something about each comparison of a rule, from left to right, and the
truth of the rule can be read off these findings. A judgement that is not thorough finds faults in
the same order, but may leave some out.
-/

namespace Newswire

namespace Rule

namespace Leaf

variable [Pattern.Measure] (l : Leaf) (fields : Fields)

/-- What is to be found about the comparison. -/
def finding : Finding where
  path := l.path
  field := l.field
  relation := l.relation
  reference := l.operand.value fields
  value := (Operand.field l.field).value fields
  truth := l.rule.truth fields

def earlyFaults : List Fault := earlyFault l.relation l.path l.operand

def lateFaults : List Fault := lateFault fields l.relation l.path l.operand

end Leaf

theorem eq_of_mem_patternFault [Pattern.Measure] {comparison : Comparison} {path : Path}
    {source : String} {f : Fault} (h : f ∈ patternFault comparison path source) :
    ∃ cause, f = .badPattern path source cause := by
  unfold patternFault at h
  split at h
  · cases hc : compilePattern source with
    | ok p => simp [hc] at h
    | error cause =>
        rw [hc] at h
        exact ⟨cause, List.mem_singleton.mp h⟩
  · cases h

section Notes

variable [Pattern.Measure] (fields : Fields)

/-- What is noted down about comparisons. -/
def notesOf (ls : List Leaf) : Notes := ⟨ls.flatMap (·.lateFaults fields), ls.map (·.finding fields)⟩

theorem notesOf_append (ls ms : List Leaf) :
    notesOf fields ls ++ notesOf fields ms = notesOf fields (ls ++ ms) := by
  rw [notesOf, notesOf, notesOf, List.flatMap_append, List.map_append]
  rfl

mutual

theorem prepareAt_faults (path : Path) :
    ∀ rule : Rule, (rule.prepareAt path).2 = (leavesAt path rule).flatMap Leaf.earlyFaults
  | group _ rules => prepareAll_faults path 0 rules
  | negation rule => prepareAt_faults (path ++ [.inner]) rule
  | compare relation field operand => by
      simp [prepareAt, prepareOperand_faults, leavesAt, Leaf.earlyFaults]

theorem prepareAll_faults (path : Path) (index : Nat) :
    ∀ rules : List Rule,
      (prepareAll path index rules).2 = (leavesOf path index rules).flatMap Leaf.earlyFaults
  | [] => rfl
  | r :: rest => by
      rw [leavesOf, List.flatMap_append, ← prepareAt_faults (path ++ [Step.item index]) r,
        ← prepareAll_faults path (index + 1) rest]
      rfl

end

theorem judge_compare (thorough : Bool) (path : Path) (relation : Relation) (field : String)
    (operand : Operand) :
    (((compare relation field operand).prepareAt path).1.judge thorough fields).2 =
      notesOf fields [⟨path, relation, field, operand⟩] := by
  simp [prepareAt, Prepared.judge, prepareOperand_apply, notesOf, Leaf.lateFaults, Leaf.finding,
    Leaf.rule, truth, Relation.truth, Operand.value_field]

mutual

/-- A thorough judgement notes something down about every comparison. -/
theorem judge_notes (path : Path) :
    ∀ rule : Rule, ((rule.prepareAt path).1.judge true fields).2 =
      notesOf fields (leavesAt path rule)
  | group _ [] => rfl
  | group junction (r :: rest) => judgeAll_notes path 0 junction junction.unit (r :: rest)
  | negation rule => judge_notes (path ++ [.inner]) rule
  | compare relation field operand => judge_compare fields true path relation field operand

theorem judgeAll_notes (path : Path) (index : Nat) (junction : Junction) (before : Truth) :
    ∀ rules : List Rule,
      (Prepared.judgeAll true fields junction before (prepareAll path index rules).1).2 =
        notesOf fields (leavesOf path index rules)
  | [] => rfl
  | r :: rest => by
      rw [leavesOf, ← notesOf_append, ← judge_notes (path ++ [Step.item index]) r]
      simp only [prepareAll, Prepared.judgeAll, Bool.not_true, Bool.false_eq_true, and_false,
        if_false]
      rw [judgeAll_notes path (index + 1) junction _ rest]

end

mutual

/-- The faults that are found by a judgement that is not thorough are found by a thorough one. -/
theorem judge_faults_sublist (path : Path) :
    ∀ rule : Rule, ((rule.prepareAt path).1.judge false fields).2.faults.Sublist
      ((leavesAt path rule).flatMap (·.lateFaults fields))
  | group _ [] => List.Sublist.refl _
  | group junction (r :: rest) =>
      judgeAll_faults_sublist path 0 junction junction.unit (r :: rest)
  | negation rule => judge_faults_sublist (path ++ [.inner]) rule
  | compare relation field operand => by
      rw [judge_compare]
      exact List.Sublist.refl _

theorem judgeAll_faults_sublist (path : Path) (index : Nat) (junction : Junction)
    (before : Truth) :
    ∀ rules : List Rule,
      (Prepared.judgeAll false fields junction before
        (prepareAll path index rules).1).2.faults.Sublist
          ((leavesOf path index rules).flatMap (·.lateFaults fields))
  | [] => List.Sublist.refl _
  | r :: rest => by
      rw [leavesOf, List.flatMap_append]
      simp only [prepareAll, Prepared.judgeAll]
      split
      · exact (judge_faults_sublist (path ++ [.item index]) r).trans
          (List.sublist_append_left _ _)
      · exact (judge_faults_sublist (path ++ [.item index]) r).append
          (judgeAll_faults_sublist path (index + 1) junction _ rest)

end

/-- However thorough a judgement is, its faults are among those of the patterns that fields give. -/
theorem judge_faults_sublist_lateFaults (thorough : Bool) (rule : Rule) :
    ((rule.prepareAt []).1.judge thorough fields).2.faults.Sublist
      (rule.leaves.flatMap (·.lateFaults fields)) := by
  cases thorough with
  | false => exact judge_faults_sublist fields [] rule
  | true =>
      rw [judge_notes]
      exact List.Sublist.refl _

end Notes

/-- The truth that was found at a path. -/
def reported (findings : List Finding) (p : Path) : Truth :=
  ((findings.find? fun f => f.path.text == p.text).map Finding.truth).getD .unknown

mutual

/-- The truth of a rule by the truths at the paths of its comparisons. -/
def combinedAt (found : Path → Truth) (path : Path) : Rule → Truth
  | group junction rules => junction.combine (combinedOf found path 0 rules)
  | negation rule => (combinedAt found (path ++ [.inner]) rule).not
  | compare .. => found path

def combinedOf (found : Path → Truth) (path : Path) (index : Nat) : List Rule → List Truth
  | [] => []
  | r :: rest => combinedAt found (path ++ [.item index]) r :: combinedOf found path (index + 1) rest

end

section Combined

variable [Pattern.Measure] {fields : Fields} {found : Path → Truth}

mutual

/-- Whoever knows the truth of the comparisons knows that of the rule. -/
theorem combinedAt_eq_truth (path : Path) :
    ∀ rule : Rule, (∀ l ∈ leavesAt path rule, found l.path = l.rule.truth fields) →
      combinedAt found path rule = rule.truth fields
  | group _ rules, h => congrArg _ (combinedOf_eq_truths path 0 rules h)
  | negation rule, h => congrArg _ (combinedAt_eq_truth (path ++ [.inner]) rule h)
  | compare .., h => h _ (List.mem_singleton.mpr rfl)

theorem combinedOf_eq_truths (path : Path) (index : Nat) :
    ∀ rules : List Rule, (∀ l ∈ leavesOf path index rules, found l.path = l.rule.truth fields) →
      combinedOf found path index rules = truths fields rules
  | [], _ => rfl
  | r :: rest, h => by
      rw [combinedOf, truths, combinedAt_eq_truth (path ++ [Step.item index]) r,
        combinedOf_eq_truths path (index + 1) rest]
      · exact fun l hl => h l (List.mem_append_right _ hl)
      · exact fun l hl => h l (List.mem_append_left _ hl)

end

theorem reported_leaf {rule : Rule} {l : Leaf} (h : l ∈ rule.leaves) :
    reported (rule.leaves.map (·.finding fields)) l.path = l.rule.truth fields := by
  cases hfind : (rule.leaves.map (·.finding fields)).find? fun f => f.path.text == l.path.text with
  | none =>
      have hmem : l.finding fields ∈ rule.leaves.map (·.finding fields) :=
        List.mem_map_of_mem h
      simpa [Leaf.finding] using List.find?_eq_none.mp hfind _ hmem
  | some f =>
      obtain ⟨m, hm, rfl⟩ := List.mem_map.mp (List.mem_of_find?_eq_some hfind)
      have htext : m.path.text = l.path.text := beq_iff_eq.mp (List.find?_some hfind :)
      have hrule : some m.rule = some l.rule := by
        rw [← (mem_leaves_iff m rule).mp hm, ← (mem_leaves_iff l rule).mp h,
          Path.text_injective htext]
      rw [reported, hfind, ← Option.some.inj hrule]
      rfl

end Combined

end Rule

namespace Screen

/-- What a thorough judgement of a rule reports, and how the faults of one that is not thorough
stand to those. -/
structure Reports [Pattern.Measure] (rule : Rule) (fields : Fields) : Prop where
  /-- There is one finding for each comparison, from left to right. -/
  findings : ((prepare (some rule)).judge fields true).findings =
    some (rule.leaves.map (·.finding fields))
  /-- The comparisons are the ones that paths lead to. -/
  places : ∀ l, l ∈ rule.leaves ↔ rule.follow l.path = some l.rule
  inOrder : rule.leaves.Pairwise fun l m => l.path.Before m.path
  distinct : (rule.leaves.map (·.path.text)).Nodup
  /-- The verdict can be read off the findings. -/
  verdict : ((prepare (some rule)).judge fields true).passed = true ↔
    rule.combinedAt (Rule.reported (rule.leaves.map (·.finding fields))) [] = .yes
  /-- The faults of the patterns that are written in the rule are found beforehand. -/
  early : (prepare (some rule)).faults = rule.leaves.flatMap (·.earlyFaults)
  thorough : ((prepare (some rule)).judge fields true).faults =
    (prepare (some rule)).faults ++ rule.leaves.flatMap (·.lateFaults fields)
  briefStart : (prepare (some rule)).faults <+: ((prepare (some rule)).judge fields false).faults
  brief : ((prepare (some rule)).judge fields false).faults.Sublist
    ((prepare (some rule)).judge fields true).faults

/-- The findings of a thorough judgement are about the comparisons of the rule and say what these
come to. Its faults are those of a judgement that is not thorough, and maybe others between them. -/
theorem reports [Pattern.Measure] (rule : Rule) (fields : Fields) : Reports rule fields := by
  have hnotes := Rule.judge_notes fields [] rule
  have hthorough : ((prepare (some rule)).judge fields true).faults =
      (prepare (some rule)).faults ++ rule.leaves.flatMap (·.lateFaults fields) :=
    congrArg (_ ++ ·.faults) hnotes
  have hverdict : rule.combinedAt (Rule.reported (rule.leaves.map (·.finding fields))) [] =
      rule.truth fields := by
    apply Rule.combinedAt_eq_truth
    intro l hl
    exact Rule.reported_leaf hl
  constructor
  · exact congrArg (some ·.findings) hnotes
  · intro l
    exact Rule.mem_leaves_iff l rule
  · exact Rule.leavesAt_pairwise [] rule
  · exact Rule.nodup_leaves_text rule
  · rw [hverdict, ← Rule.judge_prepareAt true fields [] rule]
    exact decide_eq_true_iff
  · exact Rule.prepareAt_faults [] rule
  · exact hthorough
  · exact List.prefix_append _ _
  · rw [hthorough]
    apply List.Sublist.append_left
    exact Rule.judge_faults_sublist fields [] rule

end Screen

end Newswire
