import Newswire.Json.Record

/-!
# Messages as they are sent

A message is a text, a list of embeds, or both. Where a part is missing, it is left out of the
written form.
-/

namespace Newswire.Message

structure Footer where
  text : String := ""
  icon : Option String := none
  deriving Repr, DecidableEq, Inhabited

structure Author where
  name : String := ""
  url : Option String := none
  icon : Option String := none
  deriving Repr, DecidableEq, Inhabited

structure EmbedField where
  name : String := ""
  value : String := ""
  inLine : Bool := false
  deriving Repr, DecidableEq, Inhabited

structure Embed where
  title : Option String := none
  description : Option String := none
  url : Option String := none
  color : Option Nat := none
  footer : Option Footer := none
  image : Option String := none
  thumbnail : Option String := none
  author : Option Author := none
  fields : List EmbedField := []
  deriving Repr, DecidableEq, Inhabited

structure Payload where
  content : Option String := none
  embeds : List Embed := []
  deriving Repr, DecidableEq, Inhabited

/-- A member that is written only if there is a value. -/
def given {α : Type} (name : String) (encode : α → Json) : Option α → List (String × Json)
  | some a => [(name, encode a)]
  | none => []

/-- A member that is written only if the list has items. -/
def listed {α : Type} (name : String) (encode : α → Json) (items : List α) : List (String × Json) :=
  if items.isEmpty then [] else [(name, .arr (items.map encode))]

namespace Footer

def decode : Json.Decoder Footer :=
  Json.record {}
    [.requires "text" .text fun s f => { f with text := s },
     .allows "icon_url" (.nullable .text) fun s f => { f with icon := s }]

def encode (f : Footer) : Json := .obj (("text", .str f.text) :: given "icon_url" .str f.icon)

end Footer

namespace Author

def decode : Json.Decoder Author :=
  Json.record {}
    [.requires "name" .text fun s a => { a with name := s },
     .allows "url" (.nullable .text) fun s a => { a with url := s },
     .allows "icon_url" (.nullable .text) fun s a => { a with icon := s }]

def encode (a : Author) : Json :=
  .obj (("name", .str a.name) :: given "url" .str a.url ++ given "icon_url" .str a.icon)

end Author

namespace EmbedField

def decode : Json.Decoder EmbedField :=
  Json.record {}
    [.requires "name" .text fun s f => { f with name := s },
     .requires "value" .text fun s f => { f with value := s },
     .allows "inline" .bool fun b f => { f with inLine := b }]

def encode (f : EmbedField) : Json :=
  .obj [("name", .str f.name), ("value", .str f.value), ("inline", .bool f.inLine)]

end EmbedField

namespace Embed

/-- An embed shows nothing when it has neither text nor picture; color and footer do not count. -/
def isEmpty (e : Embed) : Bool :=
  e.title.isNone && e.description.isNone && e.url.isNone && e.image.isNone && e.thumbnail.isNone
    && e.author.isNone && e.fields.isEmpty

/-- A picture is written as an object around its address. -/
def decodeMedia : Json.Decoder String := Json.record "" [.requires "url" .text fun s _ => s]

def encodeMedia (url : String) : Json := .obj [("url", .str url)]

def decode : Json.Decoder Embed :=
  Json.record {}
    [.allows "title" (.nullable .text) fun s e => { e with title := s },
     .allows "description" (.nullable .text) fun s e => { e with description := s },
     .allows "url" (.nullable .text) fun s e => { e with url := s },
     .allows "color" (.nullable .nat32) fun n e => { e with color := n },
     .allows "footer" (.nullable Footer.decode) fun f e => { e with footer := f },
     .allows "image" (.nullable decodeMedia) fun s e => { e with image := s },
     .allows "thumbnail" (.nullable decodeMedia) fun s e => { e with thumbnail := s },
     .allows "author" (.nullable Author.decode) fun a e => { e with author := a },
     .allows "fields" (.list EmbedField.decode) fun fs e => { e with fields := fs }]

def encode (e : Embed) : Json :=
  .obj
    (given "title" .str e.title ++ given "description" .str e.description ++ given "url" .str e.url
      ++ given "color" (fun n : Nat => .int n) e.color ++ given "footer" Footer.encode e.footer
      ++ given "image" encodeMedia e.image ++ given "thumbnail" encodeMedia e.thumbnail
      ++ given "author" Author.encode e.author ++ listed "fields" EmbedField.encode e.fields)

end Embed

namespace Payload

/-- A message of text alone. -/
def ofText (content : String) : Payload := { content := some content }

/-- A message shows nothing when it has neither text nor embeds. -/
def isEmpty (p : Payload) : Bool := p.content.all (· == "") && p.embeds.isEmpty

def decode : Json.Decoder Payload :=
  Json.record {}
    [.allows "content" (.nullable .text) fun s p => { p with content := s },
     .allows "embeds" (.list Embed.decode) fun es p => { p with embeds := es }]

def encode (p : Payload) : Json :=
  .obj (given "content" .str p.content ++ listed "embeds" Embed.encode p.embeds)

end Payload

end Newswire.Message
