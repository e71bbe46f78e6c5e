import Newswire.Fields
import Newswire.Rule.Fault
import Newswire.Text.Case

/-!
# Verdicts

A rule is prepared once, which compiles the patterns written in it and collects their faults, and is
then judged against the fields of any number of articles. A comparison whose pattern does not
compile is neither true nor false; an article passes only if the rule is definitely true.
-/

namespace Newswire

/-- Truth with a third value for what cannot be judged. -/
inductive Truth where
  | yes
  | no
  | unknown
  deriving Repr, DecidableEq

namespace Truth

def ofBool (b : Bool) : Truth := if b then yes else no

def not : Truth → Truth
  | yes => no
  | no => yes
  | unknown => unknown

def and : Truth → Truth → Truth
  | no, _ => no
  | _, no => no
  | yes, yes => yes
  | _, _ => unknown

def or : Truth → Truth → Truth
  | yes, _ => yes
  | _, yes => yes
  | no, no => no
  | _, _ => unknown

def toBool? : Truth → Option Bool
  | yes => some true
  | no => some false
  | unknown => none

@[simp] theorem not_not (t : Truth) : t.not.not = t := by cases t <;> rfl

theorem not_and (s t : Truth) : (s.and t).not = s.not.or t.not := by cases s <;> cases t <;> rfl

theorem not_or (s t : Truth) : (s.or t).not = s.not.and t.not := by cases s <;> cases t <;> rfl

end Truth

namespace Junction

/-- The truth of a group of none, which is also what members are joined to. -/
def unit : Junction → Truth
  | .all => .yes
  | .any => .no

def join : Junction → Truth → Truth → Truth
  | .all => Truth.and
  | .any => Truth.or

/-- The truth that further members cannot change. -/
def decided : Junction → Truth
  | .all => .no
  | .any => .yes

end Junction

namespace Rule

/-- What a prepared comparison holds its field against. -/
inductive Test where
  | text (s : String)
  | field (name : String)
  | pattern (source : String) (p : Pattern)
  | broken (source : String)
  deriving Inhabited

/-- A rule whose own patterns have been compiled. -/
inductive Prepared where
  | group (junction : Junction) (rules : List Prepared)
  | negation (rule : Prepared)
  | compare (path : Path) (relation : Relation) (field : String) (test : Test)

instance : Inhabited Prepared := ⟨.group .all []⟩

/-- Patterns are run without regard to case. -/
def compilePattern [Pattern.Measure] (source : String) : Except Pattern.Refusal Pattern :=
  Pattern.compile Pattern.runLimit { ignoreCase := true } source

def prepareOperand [Pattern.Measure] (relation : Relation) (path : Path) :
    Operand → Test × List Fault
  | .field name => (.field name, [])
  | .text s =>
    if relation.comparison = .matching then
      match compilePattern s with
      | .ok p => (.pattern s p, [])
      | .error cause => (.broken s, [.badPattern path s cause])
    else (.text s, [])

mutual

/-- The rule with its patterns compiled, and the faults of those that were refused. -/
def prepareAt [Pattern.Measure] (path : Path) : Rule → Prepared × List Fault
  | group junction rules =>
    let (rules, faults) := prepareAll path 0 rules
    (.group junction rules, faults)
  | negation rule =>
    let (rule, faults) := prepareAt (path ++ [.inner]) rule
    (.negation rule, faults)
  | compare relation field operand =>
    let (test, faults) := prepareOperand relation path operand
    (.compare path relation field test, faults)

def prepareAll [Pattern.Measure] (path : Path) (index : Nat) :
    List Rule → List Prepared × List Fault
  | [] => ([], [])
  | r :: rest =>
    let (r, faults) := prepareAt (path ++ [.item index]) r
    let (rest, more) := prepareAll path (index + 1) rest
    (r :: rest, faults ++ more)

end

/-- What one comparison came to. -/
structure Finding where
  path : Path
  field : String
  relation : Relation
  reference : String
  value : String
  truth : Truth
  deriving Repr, DecidableEq

def Finding.encode (f : Finding) : Json :=
  .obj [("path", .str f.path.text), ("field", .str f.field), ("op", .str f.relation.name),
        ("referenceValue", .str f.reference), ("fieldValue", .str f.value),
        ("result", match f.truth.toBool? with | some b => .bool b | none => .null)]

/-- A text occurs somewhere in another one. -/
def occursIn (part whole : List Char) : Bool :=
  match whole with
  | [] => part.isEmpty
  | _ :: rest => part.isPrefixOf whole || occursIn part rest

/-- A comparison with a text, before it is negated. -/
def holds : Comparison → String → String → Bool
  | .equals, value, reference => value == reference
  | .contains, value, reference =>
    occursIn (Text.toLower reference.toList) (Text.toLower value.toList)
  | .matching, _, _ => false

/-- The truth of a comparison before it is negated, the value it refers to, and its fault. -/
def Test.apply [Pattern.Measure] (fields : Fields) (path : Path) (comparison : Comparison)
    (value : String) : Test → Truth × String × List Fault
  | .text s => (.ofBool (holds comparison value s), s, [])
  | .pattern source p => (.ofBool (p.isMatch value), source, [])
  | .broken source => (.unknown, source, [])
  | .field name =>
    let other := fields.value name
    if comparison = .matching then
      match compilePattern other with
      | .ok p => (.ofBool (p.isMatch value), other, [])
      | .error cause => (.unknown, other, [.badPattern path other cause])
    else (.ofBool (holds comparison value other), other, [])

/-- What a judgement has brought up besides its truth. -/
structure Notes where
  faults : List Fault := []
  findings : List Finding := []
  deriving Repr, DecidableEq, Inhabited

def Notes.append (m n : Notes) : Notes := ⟨m.faults ++ n.faults, m.findings ++ n.findings⟩

instance : Append Notes := ⟨Notes.append⟩

mutual

/-- The truth of a prepared rule. A judgement that is not thorough stops in a group as soon as the
truth of the group is decided. -/
def Prepared.judge [Pattern.Measure] (thorough : Bool) (fields : Fields) : Prepared → Truth × Notes
  | .group junction rules =>
    match rules with
    | [] => (.yes, {})
    | r :: rest => Prepared.judgeAll thorough fields junction junction.unit (r :: rest)
  | .negation rule =>
    let (t, notes) := Prepared.judge thorough fields rule
    (t.not, notes)
  | .compare path relation field test =>
    let value := fields.value field
    let (t, reference, faults) := test.apply fields path relation.comparison value
    let t := if relation.negated then t.not else t
    (t, ⟨faults, [⟨path, field, relation, reference, value, t⟩]⟩)

/-- The truth of the members of a group, joined to that of the members before them. -/
def Prepared.judgeAll [Pattern.Measure] (thorough : Bool) (fields : Fields) (junction : Junction)
    (before : Truth) : List Prepared → Truth × Notes
  | [] => (before, {})
  | r :: rest =>
    let (t, notes) := Prepared.judge thorough fields r
    let t := junction.join before t
    if t = junction.decided ∧ !thorough then (t, notes)
    else
      let (t, more) := Prepared.judgeAll thorough fields junction t rest
      (t, notes ++ more)

end

end Rule

/-- A rule that is ready to be judged; without a rule every article passes. -/
structure Screen where
  rule : Option Rule.Prepared
  faults : List Rule.Fault
  deriving Inhabited

namespace Screen

def prepare [Pattern.Measure] : Option Rule → Screen
  | none => ⟨none, []⟩
  | some rule =>
    let (rule, faults) := rule.prepareAt []
    ⟨some rule, faults⟩

/-- What a screen says about an article. Findings are reported only by a thorough judgement. -/
structure Outcome where
  passed : Bool
  faults : List Rule.Fault
  findings : Option (List Rule.Finding)
  deriving Repr, DecidableEq

def judge [Pattern.Measure] (s : Screen) (fields : Fields) (thorough : Bool) : Outcome :=
  match s.rule with
  | none => ⟨true, [], if thorough then some [] else none⟩
  | some rule =>
    let (t, notes) := rule.judge thorough fields
    ⟨t = .yes, s.faults ++ notes.faults, if thorough then some notes.findings else none⟩

end Screen

end Newswire
