import Mathlib
import Newswire.Proofs.Rule.Findings

/-!
# Negations at the comparisons

The negations of a rule can be moved inwards until only comparisons are negated. A junction that is
passed on the way turns into the other one, and a comparison that is reached into its opposite. The
rule that results is judged as before: it has the same truth, it stops at the same comparisons, and
it refuses the same patterns.
-/

namespace Newswire

/-- The truth below negations, of which there is an odd number or not. -/
def Truth.turned (odd : Bool) (t : Truth) : Truth := if odd then t.not else t

/-- The relation as it stands when negations in front of it are dropped. -/
def Relation.turned (odd : Bool) (r : Relation) : Relation := if odd then r.opposite else r

namespace Junction

/-- The junction of the opposites. -/
def dual : Junction → Junction
  | .all => .any
  | .any => .all

def turned (odd : Bool) (j : Junction) : Junction := if odd then j.dual else j

end Junction

namespace Truth

theorem turned_injective (odd : Bool) : Function.Injective (turned odd) := by
  intro s t
  cases odd <;> cases s <;> cases t <;> decide

theorem turned_not (odd : Bool) (t : Truth) : t.not.turned odd = t.turned !odd := by
  cases odd <;> cases t <;> rfl

theorem turned_join (odd : Bool) (j : Junction) (s t : Truth) :
    (j.turned odd).join (s.turned odd) (t.turned odd) = (j.join s t).turned odd := by
  cases odd with
  | false => rfl
  | true =>
      cases j with
      | all => exact (not_and s t).symm
      | any => exact (not_or s t).symm

theorem turned_decided (odd : Bool) (j : Junction) :
    (j.turned odd).decided = j.decided.turned odd := by
  cases odd <;> cases j <;> rfl

theorem turned_unit (odd : Bool) (j : Junction) : (j.turned odd).unit = j.unit.turned odd := by
  cases odd <;> cases j <;> rfl

end Truth

@[simp] theorem Relation.comparison_turned (odd : Bool) (r : Relation) :
    (r.turned odd).comparison = r.comparison := by
  cases odd <;> rfl

/-- A relation that is turned gives what it gave before, turned. -/
theorem Relation.truth_turned [Pattern.Measure] (odd : Bool) (r : Relation)
    (value reference : String) :
    (r.turned odd).truth value reference = (r.truth value reference).turned odd := by
  obtain ⟨comparison, negated⟩ := r
  cases odd <;> cases negated <;>
    simp [turned, opposite, truth, Truth.turned]

namespace Rule

mutual

/-- The rule with all negations moved to the comparisons, where it stands below negations itself. -/
def pushed (odd : Bool) : Rule → Rule
  | group junction rules => group (junction.turned odd) (pushedAll odd rules)
  | negation rule => pushed (!odd) rule
  | compare relation field operand => compare (relation.turned odd) field operand

def pushedAll (odd : Bool) : List Rule → List Rule
  | [] => []
  | r :: rest => pushed odd r :: pushedAll odd rest

end

/-- The rule without negations that means the same. -/
def normalForm (rule : Rule) : Rule := pushed false rule

mutual

/-- There is no negation in the rule. -/
def isPositive : Rule → Bool
  | group _ rules => arePositive rules
  | negation _ => false
  | compare .. => true

def arePositive : List Rule → Bool
  | [] => true
  | r :: rest => isPositive r && arePositive rest

end

mutual

/-- No group of the rule is empty. -/
def isFilled : Rule → Bool
  | group _ rules => !rules.isEmpty && areFilled rules
  | negation rule => isFilled rule
  | compare .. => true

def areFilled : List Rule → Bool
  | [] => true
  | r :: rest => isFilled r && areFilled rest

end

mutual

theorem isPositive_pushed (odd : Bool) : ∀ rule : Rule, (rule.pushed odd).isPositive = true
  | group _ rules => arePositive_pushedAll odd rules
  | negation rule => isPositive_pushed (!odd) rule
  | compare .. => rfl

theorem arePositive_pushedAll (odd : Bool) :
    ∀ rules : List Rule, arePositive (pushedAll odd rules) = true
  | [] => rfl
  | r :: rest => by
      rw [pushedAll, arePositive, isPositive_pushed odd r, arePositive_pushedAll odd rest]
      rfl

end

/-- The pattern that a fault is about, and why it was refused. -/
def Fault.refused? : Fault → Option (String × Pattern.Refusal)
  | .badPattern _ pattern cause => some (pattern, cause)
  | _ => none

/-- The patterns that faults are about, in order. -/
def refusals (faults : List Fault) : List (Option (String × Pattern.Refusal)) :=
  faults.map Fault.refused?

theorem refusals_append (fs gs : List Fault) : refusals (fs ++ gs) = refusals fs ++ refusals gs :=
  List.map_append ..

/-- What is refused before and after can be compared part by part. -/
theorem refusals_append_congr {fs fs' gs gs' : List Fault} (h : refusals fs = refusals fs')
    (h' : refusals gs = refusals gs') : refusals (fs ++ gs) = refusals (fs' ++ gs') := by
  rw [refusals_append, refusals_append, h, h']

/-- The one judgement comes to the turned truth of the other, and refuses the same patterns. -/
structure Mirrors (odd : Bool) (j k : Truth × Notes) : Prop where
  truth : j.1 = k.1.turned odd
  refusals : refusals j.2.faults = refusals k.2.faults

section Measured

variable [Pattern.Measure]

theorem refusals_patternFault (comparison : Comparison) (path path' : Path) (source : String) :
    refusals (patternFault comparison path source) =
      refusals (patternFault comparison path' source) := by
  unfold patternFault
  split
  · cases compilePattern source <;> rfl
  · rfl

mutual

theorem refusals_prepareAt_pushed (odd : Bool) (path path' : Path) :
    ∀ rule : Rule,
      refusals ((rule.pushed odd).prepareAt path').2 = refusals (rule.prepareAt path).2
  | group _ rules => refusals_prepareAll_pushedAll odd path path' 0 rules
  | negation rule => refusals_prepareAt_pushed (!odd) (path ++ [Step.inner]) path' rule
  | compare relation field operand => by
      simp only [pushed, prepareAt, prepareOperand_faults]
      cases operand with
      | field name => rfl
      | text s =>
          simp only [earlyFault, Relation.comparison_turned]
          exact refusals_patternFault relation.comparison path' path s

theorem refusals_prepareAll_pushedAll (odd : Bool) (path path' : Path) (index : Nat) :
    ∀ rules : List Rule,
      refusals (prepareAll path' index (pushedAll odd rules)).2 =
        refusals (prepareAll path index rules).2
  | [] => rfl
  | r :: rest =>
      refusals_append_congr
        (refusals_prepareAt_pushed odd (path ++ [.item index]) (path' ++ [.item index]) r)
        (refusals_prepareAll_pushedAll odd path path' (index + 1) rest)

end

theorem mirrors_compare (odd thorough : Bool) (fields : Fields) (path path' : Path)
    (relation : Relation) (field : String) (operand : Operand) :
    Mirrors odd
      (((compare (relation.turned odd) field operand).prepareAt path').1.judge thorough fields)
      (((compare relation field operand).prepareAt path).1.judge thorough fields) := by
  constructor
  · rw [judge_prepareAt, judge_prepareAt]
    exact relation.truth_turned odd ((Operand.field field).value fields) (operand.value fields)
  · rw [judge_compare, judge_compare]
    simp only [notesOf, List.flatMap_singleton, Leaf.lateFaults]
    cases operand with
    | text s => rfl
    | field name =>
        simp only [lateFault, Relation.comparison_turned]
        exact refusals_patternFault relation.comparison path' path
          ((Operand.field name).value fields)

-- Both judgements stop in a group at the same member, since a truth is decided for a junction
-- exactly when the turned truth is decided for the turned junction.
mutual

theorem mirrors_pushed (thorough : Bool) (fields : Fields) (odd : Bool) (path path' : Path) :
    ∀ rule : Rule, rule.isFilled = true →
      Mirrors odd (((rule.pushed odd).prepareAt path').1.judge thorough fields)
        ((rule.prepareAt path).1.judge thorough fields)
  | group _ [], h => by cases h
  | group junction (r :: rest), h => by
      have hall : areFilled (r :: rest) = true := (Bool.and_eq_true_iff.mp h).2
      have hjudged := mirrors_pushedAll thorough fields odd path path' 0 junction junction.unit
        (r :: rest) hall
      rw [← Truth.turned_unit] at hjudged
      exact hjudged
  | negation rule, h => by
      have hrule := mirrors_pushed thorough fields (!odd) (path ++ [.inner]) path' rule h
      constructor
      · exact hrule.truth.trans (Truth.turned_not odd _).symm
      · exact hrule.refusals
  | compare relation field operand, _ =>
      mirrors_compare odd thorough fields path path' relation field operand

theorem mirrors_pushedAll (thorough : Bool) (fields : Fields) (odd : Bool) (path path' : Path)
    (index : Nat) (junction : Junction) (before : Truth) :
    ∀ rules : List Rule, areFilled rules = true →
      Mirrors odd
        (Prepared.judgeAll thorough fields (junction.turned odd) (before.turned odd)
          (prepareAll path' index (pushedAll odd rules)).1)
        (Prepared.judgeAll thorough fields junction before (prepareAll path index rules).1)
  | [], _ => ⟨rfl, rfl⟩
  | r :: rest, h => by
      obtain ⟨hr, hrest⟩ := Bool.and_eq_true_iff.mp h
      have hfirst := mirrors_pushed thorough fields odd (path ++ [.item index])
        (path' ++ [.item index]) r hr
      have hmore := mirrors_pushedAll thorough fields odd path path' (index + 1) junction
        (junction.join before ((r.prepareAt (path ++ [.item index])).1.judge thorough fields).1)
        rest hrest
      simp only [pushedAll, prepareAll, Prepared.judgeAll, hfirst.truth, Truth.turned_join,
        Truth.turned_decided, (Truth.turned_injective odd).eq_iff]
      split
      · exact ⟨rfl, hfirst.refusals⟩
      · exact ⟨hmore.truth, refusals_append_congr hfirst.refusals hmore.refusals⟩

end

/-- All faults that a judgement brings up are about patterns. -/
theorem isSome_of_mem_faults {rule : Rule} {fields : Fields} {thorough : Bool} {f : Fault}
    (h : f ∈ ((Screen.prepare (some rule)).judge fields thorough).faults) :
    f.refused?.isSome = true := by
  rcases List.mem_append.mp h with hearly | hlate
  · have hleaf : f ∈ rule.leaves.flatMap Leaf.earlyFaults := prepareAt_faults [] rule ▸ hearly
    obtain ⟨⟨path, relation, field, operand⟩, -, hf⟩ := List.mem_flatMap.mp hleaf
    cases operand with
    | text s =>
        obtain ⟨cause, rfl⟩ := eq_of_mem_patternFault hf
        rfl
    | field name => cases hf
  · have hleaf := (judge_faults_sublist_lateFaults fields thorough rule).subset hlate
    obtain ⟨⟨path, relation, field, operand⟩, -, hf⟩ := List.mem_flatMap.mp hleaf
    cases operand with
    | text s => cases hf
    | field name =>
        obtain ⟨cause, rfl⟩ := eq_of_mem_patternFault hf
        rfl

/-- Two rules are judged alike: the same articles pass, and the same patterns are refused in the
same order, with whatever paths. -/
structure JudgedAlike (r s : Rule) (fields : Fields) (thorough : Bool) : Prop where
  passed : ((Screen.prepare (some r)).judge fields thorough).passed =
    ((Screen.prepare (some s)).judge fields thorough).passed
  refusals : refusals ((Screen.prepare (some r)).judge fields thorough).faults =
    refusals ((Screen.prepare (some s)).judge fields thorough).faults
  refused : ∀ f ∈ ((Screen.prepare (some s)).judge fields thorough).faults,
    f.refused?.isSome = true

theorem judgedAlike_of_mirrors {r s : Rule} {fields : Fields} {thorough : Bool}
    (hearly : refusals (r.prepareAt []).2 = refusals (s.prepareAt []).2)
    (hjudged : Mirrors false ((r.prepareAt []).1.judge thorough fields)
      ((s.prepareAt []).1.judge thorough fields)) :
    JudgedAlike r s fields thorough := by
  constructor
  · exact congrArg (fun t => decide (t = Truth.yes)) hjudged.truth
  · exact refusals_append_congr hearly hjudged.refusals
  · intro f hf
    exact isSome_of_mem_faults hf

/-- A rule without empty groups is judged as its normal form is, which has no negations. The same
holds of their negations, so that the one is false, and not open, where the other one is. -/
theorem normalForm_judgedAlike (rule : Rule) (h : rule.isFilled = true) (fields : Fields)
    (thorough : Bool) :
    rule.normalForm.isPositive = true ∧
      JudgedAlike rule.normalForm rule fields thorough ∧
      JudgedAlike (negation rule.normalForm) (negation rule) fields thorough := by
  refine ⟨isPositive_pushed false rule, ?_, ?_⟩
  · apply judgedAlike_of_mirrors
    · exact refusals_prepareAt_pushed false [] [] rule
    · exact mirrors_pushed thorough fields false [] [] rule h
  · -- The normal form does not see the paths, so that it may as well be prepared below a negation.
    apply judgedAlike_of_mirrors
    · exact refusals_prepareAt_pushed false [.inner] [.inner] rule
    · have hinner := mirrors_pushed thorough fields false [.inner] [.inner] rule h
      exact ⟨congrArg Truth.not hinner.truth, hinner.refusals⟩

end Measured

/-- A rule with negations at two levels and two patterns that are refused, one of which the article
gives. -/
def guarded : Rule :=
  negation (group .all
    [compare ⟨.contains, false⟩ "title" (.text "news"),
     negation (group .any
       [compare ⟨.matching, true⟩ "title" (.text "("),
        compare ⟨.matching, true⟩ "title" (.field "pattern")])])

def unclosedFields : Fields := .ofList [("title", "Daily news"), ("pattern", "[")]

theorem guarded_judgedAlike :
    guarded.isFilled = true ∧
      guarded.normalForm.isPositive = true ∧
      JudgedAlike guarded.normalForm guarded unclosedFields false ∧
      JudgedAlike (negation guarded.normalForm) (negation guarded) unclosedFields false ∧
      refusals ((Screen.prepare (some guarded)).judge unclosedFields false).faults =
        [some ("(", .malformed), some ("[", .malformed)] := by
  obtain ⟨hpositive, halike, hnegated⟩ :=
    normalForm_judgedAlike guarded rfl unclosedFields false
  exact ⟨rfl, hpositive, halike, hnegated, by cbv⟩

end Rule

end Newswire
