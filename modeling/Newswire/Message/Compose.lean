import Newswire.Article
import Newswire.Connection
import Newswire.Message.Derivation
import Newswire.Message.Markup
import Newswire.Message.Outline
import Newswire.Message.Payload
import Newswire.Message.Template

/-!
# Composing messages

The messages for an article are made by filling in an outline. Its text is cut into parts, one for
each message, and the embeds go on the last one. Parts that show nothing are not sent; if nothing is
left, there is no message and that is a failure.
-/

namespace Newswire.Message

/-- The greatest length of a message, if no other is given. -/
def defaultLength : Nat := 2000

def maxEmbeds : Nat := 10

def maxEmbedFields : Nat := 25

def titleLimit : Nat := 256

def descriptionLimit : Nat := 4096

def footerLimit : Nat := 2048

def authorLimit : Nat := 256

def fieldNameLimit : Nat := 256

def fieldValueLimit : Nat := 1024

/-- What templates are filled in with. -/
structure Filling where
  fields : Fields
  options : Options

namespace Filling

/-- A template filled in and freed of markup as the options say. -/
def text (f : Filling) (template : String) : List Char :=
  let filled := Template.fill f.options.fallbacks f.fields template
  let filled := if f.options.formatTables then Markup.formatTables filled else filled
  if f.options.stripImages then Markup.stripImages filled else filled

/-- A text of at most `limit` characters, if it shows anything. -/
def capped (f : Filling) (limit : Nat) (template : String) : Option String :=
  let shown := Text.trim (f.text template)
  if shown.isEmpty then none else some (String.ofList (truncate limit shown).1)

/-- An address, if it shows anything. Blanks inside it are written as `%20`. -/
def url (f : Filling) (template : String) : Option String :=
  match Text.words (Template.fill f.options.fallbacks f.fields template) with
  | [] => none
  | words => some (String.intercalate "%20" (words.map String.ofList))

def field? (f : Filling) (o : FieldOutline) : Option EmbedField := do
  let name ← f.capped fieldNameLimit o.name
  let value ← f.capped fieldValueLimit o.value
  return ⟨name, value, o.inLine⟩

/-- A footer needs a text and an author a name; fields need both. -/
def embed (f : Filling) (o : EmbedOutline) : Embed :=
  { title := o.title.bind (f.capped titleLimit)
    description := o.description.bind (f.capped descriptionLimit)
    url := o.url.bind f.url
    color := o.color
    footer := (o.footer.bind (f.capped footerLimit)).map fun text =>
      ⟨text, o.footerIcon.bind f.url⟩
    image := o.image.bind f.url
    thumbnail := o.thumbnail.bind f.url
    author := (o.author.bind (f.capped authorLimit)).map fun name =>
      ⟨name, o.authorUrl.bind f.url, o.authorIcon.bind f.url⟩
    fields := (o.fields.filterMap f.field?).take maxEmbedFields }

/-- The parts that a text is sent in: all of them where cutting is on, else only the first. -/
def contentParts (f : Filling) (maxLength : Nat) (content : List Char) : List (List Char) :=
  match f.options.cutting with
  | some cutting =>
    if cutting.isEnabled then
      parts cutting (min (cutting.limit.getD maxLength) maxLength) content
    else [firstPart cutting maxLength content]
  | none => [firstPart {} maxLength content]

/-- The messages of text alone. -/
def texts (f : Filling) (maxLength : Nat) (template : Option String) : List Payload :=
  let content := Text.trim ((template.map f.text).getD [])
  if content.isEmpty then []
  else
    let shown := (f.contentParts maxLength content).filter fun part => !(Text.trim part).isEmpty
    shown.map fun part => .ofText (String.ofList part)

def embeds (f : Filling) (outlines : List EmbedOutline) : List Embed :=
  ((outlines.map f.embed).filter fun e => !e.isEmpty).take maxEmbeds

end Filling

/-- Puts the embeds on the last message, or into one of their own. -/
def attach (embeds : List Embed) : List Payload → List Payload
  | [] => if embeds.isEmpty then [] else [{ embeds }]
  | [p] => [if embeds.isEmpty then p else { p with embeds }]
  | p :: rest => p :: attach embeds rest

/-- The messages that an outline makes of fields, to which the derived ones have been added. -/
def compose (maxLength : Nat) (options : Options) (outline : Outline) (fields : Fields) :
    Except Failure (List Payload) :=
  let maxLength := max maxLength 1
  let f : Filling := ⟨Limit.applyAll fields options.limits, options⟩
  match attach (f.embeds outline.embeds) (f.texts maxLength outline.content) with
  | [] => .error .emptyMessage
  | payloads => .ok payloads

/-- The messages for an article, as a connection asks for them. -/
def messagesFor (maxLength : Nat) (article : Article) (c : Connection) :
    Except Failure (List Payload) := do
  let fields ← Derivation.addAll article.flattened c.derivations
  compose maxLength c.options c.outline fields

end Newswire.Message
