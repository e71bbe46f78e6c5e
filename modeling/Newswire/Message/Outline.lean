import Newswire.Message.Cut
import Newswire.Message.Derivation

/-!
# Outlines of messages

The outline of a message holds a template for each of its texts. Options say what is done with a
text after its template has been filled in.
-/

namespace Newswire.Message

structure FieldOutline where
  name : String := ""
  value : String := ""
  inLine : Bool := false
  deriving Repr, DecidableEq, Inhabited

structure EmbedOutline where
  title : Option String := none
  description : Option String := none
  url : Option String := none
  color : Option Nat := none
  footer : Option String := none
  footerIcon : Option String := none
  image : Option String := none
  thumbnail : Option String := none
  author : Option String := none
  authorUrl : Option String := none
  authorIcon : Option String := none
  fields : List FieldOutline := []
  deriving Repr, DecidableEq, Inhabited

structure Outline where
  content : Option String := none
  embeds : List EmbedOutline := []
  deriving Repr, DecidableEq, Inhabited

structure Options where
  stripImages : Bool := false
  formatTables : Bool := false
  /-- Without it a text that is too long is cut off. -/
  cutting : Option Cutting := none
  limits : List Limit := []
  /-- A placeholder may name several sources. -/
  fallbacks : Bool := false
  deriving Repr, DecidableEq, Inhabited

namespace FieldOutline

def decode : Json.Decoder FieldOutline :=
  Json.record {}
    [.requires "name" .text fun s f => { f with name := s },
     .requires "value" .text fun s f => { f with value := s },
     .allows "inline" .bool fun b f => { f with inLine := b }]

def encode (f : FieldOutline) : Json :=
  .obj [("name", .str f.name), ("value", .str f.value), ("inline", .bool f.inLine)]

end FieldOutline

namespace EmbedOutline

def decode : Json.Decoder EmbedOutline :=
  Json.record {}
    [.allows "title" (.nullable .text) fun s e => { e with title := s },
     .allows "description" (.nullable .text) fun s e => { e with description := s },
     .allows "url" (.nullable .text) fun s e => { e with url := s },
     .allows "color" (.nullable .nat32) fun n e => { e with color := n },
     .allows "footerText" (.nullable .text) fun s e => { e with footer := s },
     .allows "footerIconUrl" (.nullable .text) fun s e => { e with footerIcon := s },
     .allows "imageUrl" (.nullable .text) fun s e => { e with image := s },
     .allows "thumbnailUrl" (.nullable .text) fun s e => { e with thumbnail := s },
     .allows "authorName" (.nullable .text) fun s e => { e with author := s },
     .allows "authorUrl" (.nullable .text) fun s e => { e with authorUrl := s },
     .allows "authorIconUrl" (.nullable .text) fun s e => { e with authorIcon := s },
     .allows "fields" (.list FieldOutline.decode) fun fs e => { e with fields := fs }]

def encode (e : EmbedOutline) : Json :=
  .obj
    [("title", .ofText? e.title), ("description", .ofText? e.description), ("url", .ofText? e.url),
     ("color", .ofNat? e.color), ("footerText", .ofText? e.footer),
     ("footerIconUrl", .ofText? e.footerIcon), ("imageUrl", .ofText? e.image),
     ("thumbnailUrl", .ofText? e.thumbnail), ("authorName", .ofText? e.author),
     ("authorUrl", .ofText? e.authorUrl), ("authorIconUrl", .ofText? e.authorIcon),
     ("fields", .arr (e.fields.map FieldOutline.encode))]

end EmbedOutline

namespace Outline

/-- An outline of text alone. -/
def ofText (content : String) : Outline := { content := some content }

def decode : Json.Decoder Outline :=
  Json.record {}
    [.allows "content" (.nullable .text) fun s o => { o with content := s },
     .allows "embeds" (.list EmbedOutline.decode) fun es o => { o with embeds := es }]

def encode (o : Outline) : Json :=
  .obj [("content", .ofText? o.content), ("embeds", .arr (o.embeds.map EmbedOutline.encode))]

end Outline

namespace Options

def decode : Json.Decoder Options :=
  Json.record {}
    [.allows "stripImages" .bool fun b o => { o with stripImages := b },
     .allows "formatTables" .bool fun b o => { o with formatTables := b },
     .allows "split" (.nullable Cutting.decode) fun c o => { o with cutting := c },
     .allows "placeholderLimits" (.list Limit.decode) fun ls o => { o with limits := ls },
     .allows "enablePlaceholderFallback" .bool fun b o => { o with fallbacks := b }]

def encode (o : Options) : Json :=
  .obj
    [("stripImages", .bool o.stripImages), ("formatTables", .bool o.formatTables),
     ("split", match o.cutting with | some c => c.encode | none => .null),
     ("placeholderLimits", .arr (o.limits.map Limit.encode)),
     ("enablePlaceholderFallback", .bool o.fallbacks)]

end Options

end Newswire.Message
