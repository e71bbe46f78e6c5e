import Newswire.Error
import Newswire.Text.Blank

/-!
# Rejections

A receiver rejects a connection, or a source a whole feed, with one of four codes. Too many
rejections in a row lead to a request to disable what was rejected.
-/

namespace Newswire

inductive Rejection where
  | badRequest
  | forbidden
  | mediumNotFound
  | invalidFeed
  deriving Repr, DecidableEq

namespace Rejection

def all : List Rejection := [badRequest, forbidden, mediumNotFound, invalidFeed]

def code : Rejection → String
  | badRequest => "bad-request"
  | forbidden => "forbidden"
  | mediumNotFound => "medium-not-found"
  | invalidFeed => "invalid-feed"

/-- A code that is not known is an error and never taken for another one. -/
def parse (code : String) : Except Error Rejection :=
  match all.find? fun r => r.code == code with
  | some r => .ok r
  | none => .error (.unknownRejection code)

end Rejection

inductive DisableReason where
  | badFormat
  | missingPermissions
  | missingMedium
  | invalidFeed
  deriving Repr, DecidableEq

def DisableReason.name : DisableReason → String
  | badFormat => "bad-format"
  | missingPermissions => "missing-permissions"
  | missingMedium => "missing-medium"
  | invalidFeed => "invalid-feed"

def Rejection.reason : Rejection → DisableReason
  | badRequest => .badFormat
  | forbidden => .missingPermissions
  | mediumNotFound => .missingMedium
  | invalidFeed => .invalidFeed

/-- What a rejection is about, within a feed. -/
inductive Scope where
  | feed
  | connection (id : String)
  deriving Repr, DecidableEq

namespace Scope

def connection? : Scope → Option String
  | feed => none
  | connection id => some id

def ofConnection? : Option String → Scope
  | none => feed
  | some id => connection id

/-- A connection with a blank identifier is nothing that can be rejected. -/
def isValid : Scope → Bool
  | feed => true
  | connection id => shows id

end Scope

structure DisableRequest where
  feed : String
  scope : Scope
  reason : DisableReason
  deriving Repr, DecidableEq

end Newswire
