import Newswire.Message.Outline
import Newswire.Quota.Basic
import Newswire.Rule.Basic

/-!
# Connections

A connection leads from a feed to a place where its articles are delivered. It has a rule that says
which articles pass, an outline for the messages, and limits of its own.
-/

namespace Newswire

structure Webhook where
  id : String := ""
  name : Option String := none
  deriving Repr, DecidableEq, Inhabited

structure Target where
  channel : Option String := none
  webhook : Option Webhook := none
  deriving Repr, DecidableEq, Inhabited

namespace Target

/-- There is somewhere to deliver to. -/
def isSet (t : Target) : Bool := t.channel.any (· != "") || t.webhook.isSome

def decodeWebhook : Json.Decoder Webhook :=
  Json.record {}
    [.requires "id" .text fun s w => { w with id := s },
     .allows "name" (.nullable .text) fun s w => { w with name := s }]

def encodeWebhook (w : Webhook) : Json := .obj [("id", .str w.id), ("name", .ofText? w.name)]

def decode : Json.Decoder Target :=
  Json.record {}
    [.allows "channelId" (.nullable .text) fun s t => { t with channel := s },
     .allows "webhook" (.nullable decodeWebhook) fun w t => { t with webhook := w }]

def encode (t : Target) : Json :=
  .obj
    [("channelId", .ofText? t.channel),
     ("webhook", match t.webhook with | some w => encodeWebhook w | none => .null)]

end Target

structure Connection where
  id : String := ""
  target : Target := {}
  rule : Option Rule := none
  outline : Message.Outline := {}
  options : Message.Options := {}
  derivations : List Message.Derivation := []
  limits : List RateLimit := []
  deriving Repr, Inhabited

namespace Connection

/-- An identifier that shows something; a blank one is refused with a cause of its own. -/
def decodeId (j : Json) : Except Json.Misfit String := do
  let id ← Json.Decoder.text j
  if shows id then return id else throw .blankConnection

def decode (setting : Json.Setting) : Json.Decoder Connection :=
  Json.record {}
    [.requires "id" decodeId fun s c => { c with id := s },
     .allows "target" Target.decode fun t c => { c with target := t },
     .allows "filters" (.nullable (Rule.decode setting)) fun r c => { c with rule := r },
     .allows "template" Message.Outline.decode fun o c => { c with outline := o },
     .allows "formatOptions" Message.Options.decode fun o c => { c with options := o },
     .allows "customPlaceholders" (.list (Message.Derivation.decode setting))
       fun ds c => { c with derivations := ds },
     .allows "rateLimits" (.list RateLimit.decode) fun ls c => { c with limits := ls }]

def encode (c : Connection) : Json :=
  .obj
    [("id", .str c.id), ("target", c.target.encode),
     ("filters", match c.rule with | some r => r.encode | none => .null),
     ("template", c.outline.encode), ("formatOptions", c.options.encode),
     ("customPlaceholders", .arr (c.derivations.map Message.Derivation.encode)),
     ("rateLimits", .arr (c.limits.map RateLimit.encode))]

/-- A connection to a channel, with an outline of text alone. -/
def toChannel (id channel content : String) : Connection :=
  { id, target := { channel := some channel }, outline := .ofText content }

end Connection

end Newswire
