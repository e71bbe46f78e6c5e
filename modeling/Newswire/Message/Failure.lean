import Newswire.Pattern.Basic
import Newswire.Text.Quoted

/-!
# Why no message is made
-/

namespace Newswire.Message

/-- Why the pattern of a replacement step cannot be used. -/
inductive PatternCause where
  | refused (refusal : Pattern.Refusal)
  | unknownFlag (flag : Char)
  deriving Repr, DecidableEq

def PatternCause.message : PatternCause → String
  | refused refusal => refusal.message
  | unknownFlag flag => "unsupported flag " ++ Text.Quoted.char flag

inductive Failure where
  | emptyMessage
  | badPattern (derivation pattern : String) (cause : PatternCause)
  deriving Repr, DecidableEq

def Failure.message : Failure → String
  | emptyMessage => "article produced no non-empty message"
  | badPattern derivation pattern cause =>
    "custom placeholder " ++ derivation ++ ": invalid regex " ++ Text.Quoted.text pattern ++ ": "
      ++ cause.message

end Newswire.Message
