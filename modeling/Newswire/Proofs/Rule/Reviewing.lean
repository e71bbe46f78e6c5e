import Mathlib
import Newswire.Proofs.Pattern.Folding
import Newswire.Proofs.Rule.Findings
import Newswire.Rule.Review

/-!
# What reviewed rules come to

A rule is reviewed before it is stored and prepared when it is used. Both look at the patterns that
are written in it, but the review knows a wider bound and has regard to case. All that a rule in
which the review finds nothing can be refused for is a pattern that is too large to be run.
-/

namespace Newswire

namespace Pattern

/-- A text that is a pattern, but takes more storage without regard to case than may be run. -/
def isOversized [Pattern.Measure] (text : String) : Bool :=
  (extent? { ignoreCase := true } text).any fun n => runLimit < n

/-- Every set takes a state. -/
theorem stateExtent_le_setExtent (s : CharSet) : stateExtent ≤ setExtent s := by
  unfold setExtent
  split
  · split_ifs <;> simp [stateExtent]
  · dsimp only
    split_ifs <;> simp only [stateExtent] <;> omega

end Pattern

namespace Rule

/-- The fault of a comparison whose own pattern is too large to be run. -/
def Leaf.oversized? [Pattern.Measure] (l : Leaf) : Option Fault :=
  match l.operand with
  | .field _ => none
  | .text s =>
    if l.relation.comparison = .matching ∧ Pattern.isOversized s then
      some (.badPattern l.path s (.tooLarge Pattern.runLimit))
    else none

section Reviewed

variable [Pattern.Measure]

/-- The review finds nothing in what the comparison holds its field against. -/
def Leaf.IsReviewed (l : Leaf) : Prop :=
  reviewOperand l.relation (l.path ++ [.right]) l.operand = []

mutual

/-- The review of a rule is one of all its comparisons. -/
theorem isReviewed_of_reviewAt (path : Path) (levels : Nat) :
    ∀ rule : Rule, reviewAt path levels rule = [] → ∀ l ∈ leavesAt path rule, l.IsReviewed
  | group _ rules, h => by
      rw [reviewAt] at h
      split at h
      · cases h
      · exact isReviewed_of_reviewAll path 0 (levels - 1) rules h
  | negation rule, h => by
      rw [reviewAt] at h
      split at h
      · cases h
      · exact isReviewed_of_reviewAt (path ++ [.inner]) (levels - 1) rule h
  | compare relation field operand, h => by
      rw [reviewAt] at h
      split at h
      · cases h
      · intro l hl
        rw [List.mem_singleton.mp hl]
        exact (List.append_eq_nil_iff.mp h).2

theorem isReviewed_of_reviewAll (path : Path) (index levels : Nat) :
    ∀ rules : List Rule, reviewAll path index levels rules = [] →
      ∀ l ∈ leavesOf path index rules, l.IsReviewed
  | [], _ => by simp [leavesOf]
  | r :: rest, h => by
      obtain ⟨hr, hrest⟩ := List.append_eq_nil_iff.mp h
      intro l hl
      rcases List.mem_append.mp hl with hl | hl
      · exact isReviewed_of_reviewAt (path ++ [.item index]) levels r hr l hl
      · exact isReviewed_of_reviewAll path (index + 1) levels rest hrest l hl

end

/-- The review accepts a text that is a pattern within the wider bound, unless it is empty. -/
theorem reviewOperand_text_eq_nil_iff {relation : Relation} {path : Path} {s : String}
    (hm : relation.comparison = .matching) :
    reviewOperand relation path (.text s) = [] ↔
      s.isEmpty = false ∧ ∃ n ∈ Pattern.extent? {} s, n ≤ Pattern.checkLimit := by
  have herror (cause : Pattern.Refusal) :
      Pattern.interpret Pattern.checkLimit {} s = .error cause ↔ _ :=
    Pattern.interpret_eq_error_iff
  rw [reviewOperand, if_pos hm]
  cases s.isEmpty with
  | true => simp
  | false =>
      cases hi : Pattern.interpret Pattern.checkLimit {} s with
      | ok accepted =>
        rw [hi] at herror
        cases he : Pattern.extent? {} s with
        | none => simpa [he] using herror .malformed
        | some n => simpa [he] using herror (.tooLarge Pattern.checkLimit)
      | error cause =>
        rcases (herror cause).mp hi with ⟨he, rfl⟩ | ⟨n, he, hn, rfl⟩
        · simp [he]
        · simp [Option.mem_def.mp he, hn]

/-- A text that the review accepts is a pattern without regard to case as well. -/
theorem isSome_extent?_of_reviewed {relation : Relation} {path : Path} {s : String}
    (hm : relation.comparison = .matching) (h : reviewOperand relation path (.text s) = []) :
    (Pattern.extent? { ignoreCase := true } s).isSome = true := by
  obtain ⟨-, n, hn, -⟩ := (reviewOperand_text_eq_nil_iff hm).mp h
  exact (Pattern.isSome_extent?_withCase {} true s).trans (Option.isSome_of_mem hn)

/-- What is a pattern at all is refused only if it is oversized. -/
theorem compilePattern_eq_error_iff {s : String} {cause : Pattern.Refusal}
    (h : (Pattern.extent? { ignoreCase := true } s).isSome = true) :
    compilePattern s = .error cause ↔
      Pattern.isOversized s = true ∧ cause = .tooLarge Pattern.runLimit := by
  obtain ⟨n, hn⟩ := Option.isSome_iff_exists.mp h
  rw [compilePattern, Pattern.compile_eq_error_iff, Pattern.interpret_eq_error_iff,
    Pattern.isOversized, hn]
  simp

/-- The faults of a reviewed comparison that are found when it is prepared. -/
theorem Leaf.IsReviewed.earlyFaults {l : Leaf} (h : l.IsReviewed) :
    l.earlyFaults = l.oversized?.toList := by
  obtain ⟨path, relation, field, operand⟩ := l
  cases operand with
  | field name => rfl
  | text s =>
      by_cases hm : relation.comparison = .matching
      · have herror (cause : Pattern.Refusal) : compilePattern s = .error cause ↔ _ :=
          compilePattern_eq_error_iff (isSome_extent?_of_reviewed hm h)
        simp only [Leaf.earlyFaults, earlyFault, patternFault, oversized?, hm, true_and, if_true]
        cases hc : compilePattern s with
        | ok p =>
            have hsize : Pattern.isOversized s ≠ true := fun hsize => by
              have hrefused := (herror _).mpr ⟨hsize, rfl⟩
              rw [hc] at hrefused
              cases hrefused
            rw [if_neg hsize]
            rfl
        | error cause =>
            obtain ⟨hsize, rfl⟩ := (herror cause).mp hc
            rw [if_pos hsize]
            rfl
      · simp [Leaf.earlyFaults, earlyFault, patternFault, oversized?, hm]

/-- A comparison is open only if a pattern of its own was refused, or it has none. -/
theorem Leaf.field_of_truth_eq_unknown {l : Leaf} {fields : Fields} (h : l.earlyFaults = [])
    (hopen : l.rule.truth fields = .unknown) : ∃ name, l.operand = .field name := by
  obtain ⟨path, relation, field, operand⟩ := l
  cases operand with
  | field name => exact ⟨name, rfl⟩
  | text s =>
      obtain ⟨hm, cause, hc⟩ :=
        (truth_compare_eq_unknown_iff fields relation field (.text s)).mp hopen
      simp only [Operand.value] at hc
      simp [Leaf.earlyFaults, earlyFault, patternFault, hm, hc] at h

/-- Faults that are found when a comparison is judged are about a pattern that a field gives. -/
theorem Leaf.eq_of_mem_lateFaults {l : Leaf} {fields : Fields} {f : Fault}
    (h : f ∈ l.lateFaults fields) :
    ∃ name cause, l.operand = .field name ∧
      f = .badPattern l.path (l.operand.value fields) cause := by
  obtain ⟨path, relation, field, operand⟩ := l
  cases operand with
  | text s => cases h
  | field name =>
      obtain ⟨cause, hf⟩ := eq_of_mem_patternFault h
      exact ⟨name, cause, rfl, hf⟩

end Reviewed

/-- The patterns written in a rule are in order once it is prepared. -/
structure IsReady [Pattern.Measure] (rule : Rule) : Prop where
  prepared : (Screen.prepare (some rule)).faults = []
  /-- However thorough a judgement is, it does not leave a comparison with a text open. -/
  decided : ∀ fields thorough, ∀ l ∈ rule.leaves, ∀ s, l.operand = .text s →
    ((l.rule.prepareAt l.path).1.judge thorough fields).1 ≠ .unknown
  /-- A comparison that is found to be open is held against a field. -/
  findings : ∀ fields, ∀ found ∈ ((Screen.prepare (some rule)).judge fields true).findings.getD [],
    found.truth = .unknown →
      ∃ l ∈ rule.leaves, l.path = found.path ∧ ∃ name, l.operand = .field name
  /-- So is every comparison that a judgement has a fault of. -/
  faults : ∀ fields thorough, ∀ f ∈ ((Screen.prepare (some rule)).judge fields thorough).faults,
    ∃ l ∈ rule.leaves, ∃ name cause, l.operand = .field name ∧
      f = .badPattern l.path (l.operand.value fields) cause

theorem isReady_iff [Pattern.Measure] (rule : Rule) :
    rule.IsReady ↔ (Screen.prepare (some rule)).faults = [] := by
  constructor
  · exact IsReady.prepared
  · intro h
    have hearly : ∀ l ∈ rule.leaves, l.earlyFaults = [] := by
      have hflat : rule.leaves.flatMap Leaf.earlyFaults = [] :=
        (prepareAt_faults [] rule).symm.trans h
      exact List.flatMap_eq_nil_iff.mp hflat
    constructor
    · exact h
    · intro fields thorough l hl s hs hopen
      rw [judge_prepareAt] at hopen
      obtain ⟨name, hname⟩ := Leaf.field_of_truth_eq_unknown (hearly l hl) hopen
      cases hs.symm.trans hname
    · intro fields found hfound hopen
      have hnotes : found ∈ ((rule.prepareAt []).1.judge true fields).2.findings := hfound
      rw [judge_notes] at hnotes
      obtain ⟨l, hl, rfl⟩ := List.mem_map.mp hnotes
      exact ⟨l, hl, rfl, Leaf.field_of_truth_eq_unknown (hearly l hl) hopen⟩
    · intro fields thorough f hf
      have hlate : f ∈ ((rule.prepareAt []).1.judge thorough fields).2.faults := by
        rcases List.mem_append.mp hf with hf | hf
        · rw [h] at hf
          cases hf
        · exact hf
      obtain ⟨l, hl, hf⟩ := List.mem_flatMap.mp
        ((judge_faults_sublist_lateFaults fields thorough rule).subset hlate)
      exact ⟨l, hl, Leaf.eq_of_mem_lateFaults hf⟩

/-- A rule in which the review finds nothing is ready exactly when none of the patterns written in
it is oversized, and nothing but those is refused when it is prepared. -/
theorem review_isReady_iff [Pattern.Measure] (rule : Rule) (h : rule.review = []) :
    (Screen.prepare (some rule)).faults = rule.leaves.filterMap Leaf.oversized? ∧
      (rule.IsReady ↔ ∀ l ∈ rule.leaves, ∀ s, l.operand = .text s →
        l.relation.comparison = .matching → Pattern.isOversized s = false) := by
  have hreviewed := isReviewed_of_reviewAt [] maxLevels rule h
  have hfaults : (Screen.prepare (some rule)).faults = rule.leaves.filterMap Leaf.oversized? := by
    calc (Screen.prepare (some rule)).faults
        = rule.leaves.flatMap Leaf.earlyFaults := prepareAt_faults [] rule
      _ = rule.leaves.flatMap fun l => l.oversized?.toList :=
          List.flatMap_congr fun l hl => (hreviewed l hl).earlyFaults
      _ = rule.leaves.filterMap Leaf.oversized? := (List.filterMap_eq_flatMap_toList ..).symm
  refine ⟨hfaults, ?_⟩
  rw [isReady_iff, hfaults, List.filterMap_eq_nil_iff]
  constructor
  · intro hnone l hl s hs hm
    have hl := hnone l hl
    simpa [Leaf.oversized?, hs, hm] using hl
  · intro hsize l hl
    unfold Leaf.oversized?
    split
    · rfl
    · next s hs => rw [if_neg fun hm => by simp [hsize l hl s hs hm.1] at hm]

/-- A rule with a pattern that has regard to case, and with one that the article gives. -/
def screened : Rule :=
  negation (group .any
    [compare ⟨.matching, false⟩ "title" (.text "(?-i)A{9}"),
     compare ⟨.matching, true⟩ "author" (.field "pattern")])

theorem extent?_screened (b : Bool) :
    Pattern.extent? { ignoreCase := b } "(?-i)A{9}" = some 544 := by
  have hread : Pattern.read? "(?-i)A{9}" =
      some ⟨.sequence [.flags [(.ignoreCase, false)],
        .repetition 9 (some 9) true (.literal ⟨'A', false⟩)], 0, []⟩ := by
    cbv
  rw [Pattern.extent?, hread]
  cases b <;> rfl

theorem screened_isReady :
    screened.review = [] ∧ (Screen.prepare (some screened)).faults = [] ∧ screened.IsReady := by
  have hoperand :
      reviewOperand ⟨.matching, false⟩ [.inner, .item 0, .right] (.text "(?-i)A{9}") = [] :=
    (reviewOperand_text_eq_nil_iff rfl).mpr ⟨rfl, _, extent?_screened false, by decide⟩
  have hgiven :
      reviewOperand ⟨.matching, true⟩ [.inner, .item 1, .right] (.field "pattern") = [] := by
    decide
  have hfields : shows "title" = true ∧ shows "author" = true := by decide
  have hreview : screened.review = [] := by
    simpa [review, screened, reviewAt, reviewAll, maxLevels, blankFault, hoperand, hgiven] using
      hfields
  have hsize : Pattern.isOversized "(?-i)A{9}" = false := by
    rw [Pattern.isOversized, extent?_screened]
    rfl
  have hready : screened.IsReady := by
    apply (review_isReady_iff screened hreview).2.mpr
    simp [screened, leaves, leavesAt, leavesOf, hsize]
  exact ⟨hreview, hready.prepared, hready⟩

/-- A pattern of a few characters that takes more than two megabytes. -/
def heavyPattern : String := "(0{300}){300}"

def heavy : Rule := compare ⟨.matching, true⟩ "title" (.text heavyPattern)

theorem read?_heavyPattern :
    Pattern.read? heavyPattern =
      some ⟨.repetition 300 (some 300) true
        (.group (.captured 1 none) (.repetition 300 (some 300) true (.literal ⟨'0', false⟩))),
        1, []⟩ := by
  cbv

theorem extent?_heavyPattern (b : Bool) :
    Pattern.extent? { ignoreCase := b } heavyPattern =
      some (300 * (300 * Pattern.setExtent (Pattern.Flags.fold { ignoreCase := b } (.single 48)) +
        2 * Pattern.stateExtent) + Pattern.frameExtent) := by
  simp [Pattern.extent?, read?_heavyPattern, Pattern.meaning, Pattern.Flags.literal,
    Pattern.Node.repeated, Pattern.Node.maxLength, Pattern.extent_estimate, Pattern.Node.extent]

theorem isOversized_heavyPattern : Pattern.isOversized heavyPattern = true := by
  have hlimit (s : CharSet) : Pattern.runLimit <
      300 * (300 * Pattern.setExtent s + 2 * Pattern.stateExtent) + Pattern.frameExtent := by
    have hset := Pattern.stateExtent_le_setExtent s
    simp only [Pattern.runLimit, Pattern.frameExtent, Pattern.stateExtent] at hset ⊢
    omega
  have hextent := extent?_heavyPattern true
  exact (Option.any_eq_true ..).mpr ⟨_, hextent, decide_eq_true (hlimit _)⟩

theorem review_heavy : heavy.review = [] := by
  have hextent : Pattern.extent? {} heavyPattern = some 2899392 := extent?_heavyPattern false
  have hoperand : reviewOperand ⟨.matching, true⟩ [.right] (.text heavyPattern) = [] :=
    (reviewOperand_text_eq_nil_iff rfl).mpr ⟨rfl, _, hextent, by decide⟩
  have hfield : blankFault "title" [.left] = [] := by decide
  exact List.append_eq_nil_iff.mpr ⟨hfield, hoperand⟩

/-- The review finds nothing in a rule that is refused when it is prepared, so that no article
passes, although the title has nothing to do with the pattern. -/
theorem heavy_not_isReady :
    heavy.review = [] ∧ ¬ heavy.IsReady ∧
      (Screen.prepare (some heavy)).judge (.ofList [("title", "x")]) false =
        ⟨false, [.badPattern [] heavyPattern (.tooLarge Pattern.runLimit)], none⟩ := by
  have hextent : (Pattern.extent? { ignoreCase := true } heavyPattern).isSome = true := by
    rw [extent?_heavyPattern]
    rfl
  have hrefused : compilePattern heavyPattern = .error (.tooLarge Pattern.runLimit) :=
    (compilePattern_eq_error_iff hextent).mpr ⟨isOversized_heavyPattern, rfl⟩
  refine ⟨review_heavy, fun hready => ?_, ?_⟩
  · have hnone := hready.prepared
    simp [Screen.prepare, heavy, prepareAt, prepareOperand, hrefused] at hnone
  · simp [Screen.prepare, Screen.judge, heavy, prepareAt, prepareOperand, hrefused, Prepared.judge,
      Test.apply, Truth.not]

end Rule

end Newswire
