import Newswire.Pattern.Basic
import Newswire.Rule.Basic
import Newswire.Text.Quoted

/-!
# Faults of rules

What is wrong with a rule, and where: a pattern that does not compile, or a part that makes no
sense.
-/

namespace Newswire.Rule

/-- The number of levels that a stored rule may have. -/
def maxLevels : Nat := 10

inductive Fault where
  | badPattern (path : Path) (pattern : String) (cause : Pattern.Refusal)
  | tooDeep (path : Path)
  | blankField (path : Path)
  | emptyPattern (path : Path)
  deriving Repr, DecidableEq

namespace Fault

def path : Fault → Path
  | badPattern path _ _ => path
  | tooDeep path => path
  | blankField path => path
  | emptyPattern path => path

def reason : Fault → String
  | badPattern _ _ cause => cause.message
  | tooDeep _ => "nesting exceeds " ++ toString maxLevels ++ " levels"
  | blankField _ => "field name must not be empty"
  | emptyPattern _ => "regular expression must not be empty"

def message : Fault → String
  | badPattern path pattern cause =>
    path.text ++ ": invalid regular expression " ++ Text.Quoted.text pattern ++ ": " ++
      cause.message
  | f => f.path.text ++ ": " ++ f.reason

def encode : Fault → Json
  | badPattern path pattern cause =>
    .obj [("kind", .str "invalid-regex"), ("path", .str path.text), ("pattern", .str pattern),
          ("message", .str cause.message)]
  | f => .obj [("kind", .str "invalid"), ("path", .str f.path.text), ("message", .str f.reason)]

end Fault

end Newswire.Rule
