import Newswire.Rule.Fault
import Newswire.Text.Blank

/-!
# Reviewing rules

Before a rule is stored all its faults are listed, from left to right. Below the last permitted
level a rule is not looked into.
-/

namespace Newswire.Rule

def blankFault (name : String) (path : Path) : List Fault :=
  if shows name then [] else [.blankField path]

def reviewOperand [Pattern.Measure] (relation : Relation) (path : Path) : Operand → List Fault
  | .field name => blankFault name path
  | .text s =>
    if relation.comparison = .matching then
      if s.isEmpty then [.emptyPattern path]
      else
        match Pattern.interpret Pattern.checkLimit {} s with
        | .ok _ => []
        | .error cause => [.badPattern path s cause]
    else []

mutual

/-- The faults of a rule at the given path, with `levels` levels left. -/
def reviewAt [Pattern.Measure] (path : Path) (levels : Nat) : Rule → List Fault
  | group _ rules => if levels = 0 then [.tooDeep path] else reviewAll path 0 (levels - 1) rules
  | negation rule =>
    if levels = 0 then [.tooDeep path] else reviewAt (path ++ [.inner]) (levels - 1) rule
  | compare relation field operand =>
    if levels = 0 then [.tooDeep path]
    else
      blankFault field (path ++ [.left]) ++ reviewOperand relation (path ++ [.right]) operand

def reviewAll [Pattern.Measure] (path : Path) (index levels : Nat) : List Rule → List Fault
  | [] => []
  | r :: rest =>
    reviewAt (path ++ [.item index]) levels r ++ reviewAll path (index + 1) levels rest

end

/-- All faults of a rule. -/
def review [Pattern.Measure] (rule : Rule) : List Fault := reviewAt [] maxLevels rule

end Newswire.Rule
