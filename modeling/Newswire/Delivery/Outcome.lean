/-!
# Outcomes of deliveries
-/

namespace Newswire.Delivery

/-- What kept an article from being delivered. -/
inductive Trouble where
  | internal
  | noTarget
  | receiverInternal
  | receiverBadRequest
  | receiverForbidden
  | receiverNotFound
  | articleProcessing
  deriving Repr, DecidableEq

namespace Trouble

def all : List Trouble :=
  [internal, noTarget, receiverInternal, receiverBadRequest, receiverForbidden, receiverNotFound,
   articleProcessing]

def name : Trouble → String
  | internal => "internal"
  | noTarget => "no-channel-or-webhook"
  | receiverInternal => "third-party-internal"
  | receiverBadRequest => "third-party-bad-request"
  | receiverForbidden => "third-party-forbidden"
  | receiverNotFound => "third-party-not-found"
  | articleProcessing => "article-processing-error"

def parse (name : String) : Except String Trouble :=
  match all.find? fun t => t.name == name with
  | some t => .ok t
  | none => .error ("unknown error code: " ++ name)

end Trouble

inductive Status where
  | sent
  | failed
  | filteredOut
  deriving Repr, DecidableEq

namespace Status

def all : List Status := [sent, failed, filteredOut]

def name : Status → String
  | sent => "sent"
  | failed => "failed"
  | filteredOut => "filtered-out"

def parse (name : String) : Except String Status :=
  match all.find? fun s => s.name == name with
  | some s => .ok s
  | none => .error ("unknown delivery status: " ++ name)

end Status

/-- What came of delivering an article through a connection. The cause of a failure is for those who
run the program. -/
inductive Outcome where
  | sent
  | failed (trouble : Trouble) (cause : String)
  | filteredOut
  deriving Repr, DecidableEq

namespace Outcome

def status : Outcome → Status
  | sent => .sent
  | failed _ _ => .failed
  | filteredOut => .filteredOut

def trouble? : Outcome → Option Trouble
  | failed trouble _ => some trouble
  | _ => none

def cause? : Outcome → Option String
  | failed _ cause => some cause
  | _ => none

end Outcome

end Newswire.Delivery
