import Mathlib.Data.List.Infix
import Newswire.Rule.Verdict

/-!
# What rules mean

The fields of an article give every rule one of three truth values. Judging a prepared rule finds
that value, whether or not the judgement is thorough: stopping in a group whose truth is decided
loses nothing.
-/

namespace Newswire

/-- A comparison of two texts before it is negated. A pattern that does not compile leaves it
open. -/
def Comparison.truth [Pattern.Measure] (value reference : String) : Comparison → Truth
  | .equals => .ofBool (value = reference)
  | .contains => .ofBool (Text.toLower reference.toList <:+: Text.toLower value.toList)
  | .matching =>
    match Rule.compilePattern reference with
    | .ok p => .ofBool (p.isMatch value)
    | .error _ => .unknown

def Relation.truth [Pattern.Measure] (r : Relation) (value reference : String) : Truth :=
  if r.negated then (r.comparison.truth value reference).not else r.comparison.truth value reference

/-- The text that an operand stands for. A field that is not there stands for none. -/
def Operand.value (fields : Fields) : Operand → String
  | .text s => s
  | .field name =>
    match fields.get? name with
    | some s => s
    | none => ""

/-- A judgement reads fields in the same way. -/
theorem Operand.value_field (fields : Fields) (name : String) :
    (Operand.field name).value fields = fields.value name := by
  rw [Operand.value, Fields.value]
  cases fields.get? name <;> rfl

/-- The truth of a group by that of its members. -/
def Junction.combine : Junction → List Truth → Truth
  | _, [] => .yes
  | .all, ts => if .no ∈ ts then .no else if .unknown ∈ ts then .unknown else .yes
  | .any, ts => if .yes ∈ ts then .yes else if .unknown ∈ ts then .unknown else .no

namespace Rule

mutual

/-- The truth that the fields give a rule. -/
def truth [Pattern.Measure] (fields : Fields) : Rule → Truth
  | group junction rules => junction.combine (truths fields rules)
  | negation rule => (truth fields rule).not
  | compare relation field operand =>
    relation.truth ((Operand.field field).value fields) (operand.value fields)

def truths [Pattern.Measure] (fields : Fields) : List Rule → List Truth
  | [] => []
  | r :: rest => truth fields r :: truths fields rest

end

end Rule

namespace Junction

theorem foldl_join_decided (j : Junction) (ts : List Truth) :
    ts.foldl j.join j.decided = j.decided := by
  have hjoin (t : Truth) : j.join j.decided t = j.decided := by cases j <;> cases t <;> rfl
  induction ts with
  | nil => rfl
  | cons t rest ih => rw [List.foldl_cons, hjoin, ih]

/-- Members joined one after the other. -/
theorem foldl_join (j : Junction) (before : Truth) (ts : List Truth) :
    ts.foldl j.join before =
      if j.decided ∈ before :: ts then j.decided
      else if .unknown ∈ before :: ts then .unknown else j.unit := by
  induction ts generalizing before with
  | nil => cases j <;> cases before <;> rfl
  | cons t rest ih =>
      rw [List.foldl_cons, ih]
      cases j <;> cases before <;> cases t <;> simp [join, Truth.and, Truth.or, decided]

theorem foldl_join_unit (j : Junction) {ts : List Truth} (h : ts ≠ []) :
    ts.foldl j.join j.unit = j.combine ts := by
  obtain ⟨t, rest, rfl⟩ := List.exists_cons_of_ne_nil h
  rw [foldl_join]
  cases j <;> simp [combine, decided, unit]

end Junction

namespace Rule

theorem occursIn_iff (part whole : List Char) : occursIn part whole = true ↔ part <:+: whole := by
  induction whole with
  | nil => simp [occursIn]
  | cons c rest ih =>
      rw [occursIn, Bool.or_eq_true, ih, List.isPrefixOf_iff_prefix, List.infix_cons_iff]

variable [Pattern.Measure]

/-- The truth of a comparison that looks for no pattern. -/
theorem ofBool_holds {c : Comparison} (h : c ≠ .matching) (value reference : String) :
    .ofBool (holds c value reference) = c.truth value reference := by
  cases c with
  | equals => rfl
  | contains =>
      rw [holds, Comparison.truth]
      exact congrArg Truth.ofBool (Bool.eq_iff_iff.mpr (by simp [occursIn_iff]))
  | matching => exact absurd rfl h

/-- The fault of a text that is taken for a pattern and does not compile. -/
def patternFault (comparison : Comparison) (path : Path) (source : String) : List Fault :=
  if comparison = .matching then
    match compilePattern source with
    | .ok _ => []
    | .error cause => [.badPattern path source cause]
  else []

/-- The fault of a comparison that is found when it is prepared: that of a pattern written in it. -/
def earlyFault (relation : Relation) (path : Path) : Operand → List Fault
  | .text s => patternFault relation.comparison path s
  | .field _ => []

/-- The fault of a comparison that is found when it is judged: that of a pattern given by a field. -/
def lateFault (fields : Fields) (relation : Relation) (path : Path) : Operand → List Fault
  | .text _ => []
  | .field name => patternFault relation.comparison path ((Operand.field name).value fields)

theorem prepareOperand_faults (relation : Relation) (path : Path) (operand : Operand) :
    (prepareOperand relation path operand).2 = earlyFault relation path operand := by
  cases operand with
  | field name => rfl
  | text s =>
      by_cases hm : relation.comparison = .matching
      · simp only [prepareOperand, earlyFault, patternFault, hm, if_true]
        cases compilePattern s <;> rfl
      · simp only [prepareOperand, earlyFault, patternFault, hm, if_false]

/-- What a prepared comparison comes to before it is negated. -/
theorem prepareOperand_apply (fields : Fields) (relation : Relation) (path : Path)
    (operand : Operand) (value : String) :
    (prepareOperand relation path operand).1.apply fields path relation.comparison value =
      (relation.comparison.truth value (operand.value fields), operand.value fields,
        lateFault fields relation path operand) := by
  cases operand with
  | text s =>
      by_cases hm : relation.comparison = .matching
      · simp only [prepareOperand, hm, if_true, Comparison.truth, Operand.value, lateFault]
        cases compilePattern s <;> rfl
      · simp only [prepareOperand, hm, if_false, Test.apply, ofBool_holds hm, Operand.value,
          lateFault]
  | field name =>
      by_cases hm : relation.comparison = .matching
      · simp only [prepareOperand, Test.apply, hm, if_true, Comparison.truth, Operand.value_field,
          lateFault, patternFault]
        cases compilePattern (fields.value name) <;> rfl
      · simp only [prepareOperand, Test.apply, hm, if_false, ofBool_holds hm, Operand.value_field,
          lateFault, patternFault]

-- The members of a group are taken one by one, each joined to the truth of those before it.
mutual

/-- However thorough it is, a judgement of a prepared rule finds the truth of the rule. -/
theorem judge_prepareAt (thorough : Bool) (fields : Fields) (path : Path) :
    ∀ rule : Rule, ((rule.prepareAt path).1.judge thorough fields).1 = rule.truth fields
  | group junction [] => by cases junction <;> rfl
  | group junction (r :: rest) => by
      rw [truth, ← Junction.foldl_join_unit junction (by simp [truths]),
        ← judgeAll_prepareAll thorough fields path 0 junction junction.unit (r :: rest)]
      rfl
  | negation rule => by
      rw [truth, ← judge_prepareAt thorough fields (path ++ [.inner]) rule]
      rfl
  | compare relation field operand => by
      rw [truth, Relation.truth]
      simp only [prepareAt, Prepared.judge, prepareOperand_apply, Operand.value_field]

theorem judgeAll_prepareAll (thorough : Bool) (fields : Fields) (path : Path) (index : Nat)
    (junction : Junction) (before : Truth) :
    ∀ rules : List Rule,
      (Prepared.judgeAll thorough fields junction before (prepareAll path index rules).1).1 =
        (truths fields rules).foldl junction.join before
  | [] => rfl
  | r :: rest => by
      rw [truths, List.foldl_cons, ← judge_prepareAt thorough fields (path ++ [.item index]) r]
      simp only [prepareAll, Prepared.judgeAll]
      split
      · next hd =>
          -- The members that are left out cannot change a truth that is decided.
          rw [hd.1, Junction.foldl_join_decided]
      · exact judgeAll_prepareAll thorough fields path (index + 1) junction _ rest

end

/-- A comparison is open exactly when the pattern that it looks for does not compile. -/
theorem truth_compare_eq_unknown_iff (fields : Fields) (relation : Relation) (field : String)
    (operand : Operand) :
    (compare relation field operand).truth fields = .unknown ↔
      relation.comparison = .matching ∧
        ∃ cause, compilePattern (operand.value fields) = .error cause := by
  have hnot (t : Truth) : t.not = .unknown ↔ t = .unknown := by cases t <;> decide
  have hbool (b : Bool) : Truth.ofBool b ≠ .unknown := by cases b <;> decide
  obtain ⟨comparison, negated⟩ := relation
  have hplain : (compare ⟨comparison, negated⟩ field operand).truth fields = .unknown ↔
      comparison.truth ((Operand.field field).value fields) (operand.value fields) = .unknown := by
    rw [truth, Relation.truth]
    cases negated with
    | false => rfl
    | true => exact hnot _
  rw [hplain]
  cases comparison with
  | equals => simp [Comparison.truth, hbool]
  | contains => simp [Comparison.truth, hbool]
  | matching =>
      rw [Comparison.truth]
      cases compilePattern (operand.value fields) with
      | ok p => simp [hbool]
      | error cause => simp

end Rule

/-- A judgement finds the truth of the rule, whether or not it is thorough, and an article passes
exactly when the rule is true, or there is none. -/
theorem Screen.passed_iff_truth [Pattern.Measure] (rule : Option Rule) (fields : Fields)
    (thorough : Bool) :
    let screen := Screen.prepare rule
    screen.rule.map (fun r => (r.judge thorough fields).1) = rule.map (Rule.truth fields) ∧
      ((screen.judge fields thorough).passed = true ↔ ∀ r ∈ rule, r.truth fields = .yes) ∧
      ∀ relation field operand, (Rule.compare relation field operand).truth fields = .unknown ↔
        relation.comparison = .matching ∧
          ∃ cause, Rule.compilePattern (operand.value fields) = .error cause := by
  intro screen
  have hleaf := Rule.truth_compare_eq_unknown_iff fields
  cases rule with
  | none => exact ⟨rfl, by simp [screen, prepare, judge], hleaf⟩
  | some r =>
      have htruth := Rule.judge_prepareAt thorough fields [] r
      refine ⟨congrArg some htruth, ?_, hleaf⟩
      simp [screen, prepare, judge, htruth]

end Newswire
