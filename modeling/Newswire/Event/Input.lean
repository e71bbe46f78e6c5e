import Newswire.Article
import Newswire.Connection

/-!
# Events that come in
-/

namespace Newswire

/-- What an event says about its feed. -/
structure Feed where
  id : String := ""
  url : String := ""
  passing : List String := []
  blocking : List String := []
  /-- Articles in a day, if other than for all feeds. -/
  dailyLimit : Option Nat := none
  /-- The greatest age of an article, in seconds. -/
  maxAge : Option Nat := none
  dateFields : List String := []
  deriving Repr, DecidableEq, Inhabited

namespace Feed

def decode : Json.Decoder Feed :=
  Json.record {}
    [.requires "id" .text fun s f => { f with id := s },
     .allows "url" .text fun s f => { f with url := s },
     .allows "passingComparisons" (.list .text) fun ss f => { f with passing := ss },
     .allows "blockingComparisons" (.list .text) fun ss f => { f with blocking := ss },
     .allows "articleDayLimit" (.nullable .nat32) fun n f => { f with dailyLimit := n },
     .allows "maxArticleAgeSeconds" (.nullable .nat64) fun n f => { f with maxAge := n },
     .allows "dateFields" (.list .text) fun ss f => { f with dateFields := ss }]

def encodeTexts (ss : List String) : Json := .arr (ss.map .str)

def encode (f : Feed) : Json :=
  .obj
    [("id", .str f.id), ("url", .str f.url), ("passingComparisons", encodeTexts f.passing),
     ("blockingComparisons", encodeTexts f.blocking), ("articleDayLimit", .ofNat? f.dailyLimit),
     ("maxArticleAgeSeconds", .ofNat? f.maxAge), ("dateFields", encodeTexts f.dateFields)]

end Feed

/-- Articles of a feed that are to be delivered through its connections. -/
structure Refresh where
  /-- The same whenever the event is given again. -/
  id : String := ""
  feed : Feed := {}
  articles : List Article := []
  connections : List Connection := []
  deriving Repr, Inhabited

/-- A feed, or one of its connections, that was rejected elsewhere. -/
structure Rebuff where
  feed : String := ""
  connection : Option String := none
  code : String := ""
  deriving Repr, DecidableEq, Inhabited

namespace Event

inductive Input where
  | deliver (r : Refresh)
  | feedDeleted (feed : String)
  | feedRejected (r : Rebuff)
  deriving Repr

namespace Input

instance : Inhabited Input := ⟨.feedDeleted ""⟩

/-- The feed that an event is about. Events of one feed are handled one after the other. -/
def feed : Input → String
  | deliver r => r.feed.id
  | feedDeleted feed => feed
  | feedRejected r => r.feed

inductive Kind where
  | deliver
  | feedDeleted
  | feedRejected

def kinds : List (String × Kind) :=
  [("deliver-articles", .deliver), ("feed-deleted", .feedDeleted), ("feed-rejected", .feedRejected)]

def decodeRefresh : Json.Decoder Refresh :=
  Json.record {}
    [.requires "id" .text fun s r => { r with id := s },
     .requires "feed" Feed.decode fun f r => { r with feed := f },
     .allows "articles" (.list Article.decode) fun as r => { r with articles := as },
     .allows "connections" (.list (Connection.decode .inner))
       fun cs r => { r with connections := cs }]

/-- An identifier may be missing, but it must not be blank. -/
def decodeId? : Json.Decoder (Option String) := .nullable Connection.decodeId

def decodeRebuff : Json.Decoder Rebuff :=
  Json.record {}
    [.requires "feedId" .text fun s r => { r with feed := s },
     .allows "connectionId" decodeId? fun s r => { r with connection := s },
     .requires "rejectionCode" .text fun s r => { r with code := s }]

def decode (j : Json) : Except Json.Misfit Input := do
  let (tag, body) ← Json.untag "kind" j
  match ← Json.chooseTag .outer kinds tag with
  | .deliver => return .deliver (← decodeRefresh body)
  | .feedDeleted =>
    return .feedDeleted (← Json.record "" [.requires "feedId" .text fun s _ => s] body)
  | .feedRejected => return .feedRejected (← decodeRebuff body)

def encode : Input → Json
  | deliver r =>
    .obj
      [("kind", .str "deliver-articles"), ("id", .str r.id), ("feed", r.feed.encode),
       ("articles", .arr (r.articles.map Article.encode)),
       ("connections", .arr (r.connections.map Connection.encode))]
  | feedDeleted feed => .obj [("kind", .str "feed-deleted"), ("feedId", .str feed)]
  | feedRejected r =>
    .obj
      [("kind", .str "feed-rejected"), ("feedId", .str r.feed),
       ("connectionId", .ofText? r.connection), ("rejectionCode", .str r.code)]

end Input

end Event

end Newswire
