import Newswire.Delivery.Outcome
import Newswire.Rejection.Basic

/-!
# What receivers answer
-/

namespace Newswire.Delivery

inductive Response where
  | answered (status : Nat) (body : String)
  | unreachable (cause : String)
  deriving Repr, DecidableEq, Inhabited

namespace Response

/-- The answer of a receiver that took the message. -/
def accepted : Response := .answered 200 ""

def describe (status : Nat) (body : String) : String :=
  "status " ++ toString status ++ (if body = "" then "" else ": " ++ body)

def outcome : Response → Outcome
  | unreachable cause => .failed .internal cause
  | answered status body =>
    if 200 ≤ status ∧ status ≤ 299 then .sent
    else
      let trouble : Trouble :=
        if status = 400 then .receiverBadRequest
        else if status = 403 then .receiverForbidden
        else if status = 404 then .receiverNotFound
        else if 500 ≤ status ∧ status ≤ 599 then .receiverInternal
        else .internal
      .failed trouble (describe status body)

/-- The rejection that an answer stands for; only three answers do. -/
def rejection? : Response → Option Rejection
  | unreachable _ => none
  | answered status _ =>
    if status = 400 then some .badRequest
    else if status = 403 then some .forbidden
    else if status = 404 then some .mediumNotFound
    else none

end Response

end Newswire.Delivery
