import Newswire.Message.Failure

/-!
# Errors

What can go wrong when an event is handled, and which of it may go right when the event is given
again.
-/

namespace Newswire

inductive Error where
  | database (cause : String)
  | file (cause : String)
  | invalid (cause : String)
  | notFound (what : String)
  | json (cause : String)
  | message (failure : Message.Failure)
  | timeout (call : String)
  | feedBusy (feed : String)
  | unknownRejection (code : String)
  | settings (cause : String)
  deriving Repr, DecidableEq

namespace Error

def text : Error → String
  | database cause => "database error: " ++ cause
  | file cause => "I/O error: " ++ cause
  | invalid cause => "validation error: " ++ cause
  | notFound what => what ++ " not found"
  | json cause => "JSON error: " ++ cause
  | message failure => "format error: " ++ failure.message
  | timeout call => "store operation timed out: " ++ call
  | feedBusy feed => "feed " ++ feed ++ " is already being processed"
  | unknownRejection code => "unhandled rejection code: " ++ code
  | settings cause => "configuration error: " ++ cause

/-- Handling the same event again may succeed. -/
def isRetryable : Error → Bool
  | database _ | timeout _ | feedBusy _ => true
  | _ => false

end Error

end Newswire
