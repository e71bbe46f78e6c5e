import Newswire.Calendar.Moment.Reader
import Newswire.Calendar.Zone.Timeline
import Newswire.Fields
import Newswire.Message.Cut
import Newswire.Message.Failure
import Newswire.Pattern.Replacement
import Newswire.Text.Case
import Newswire.Text.Percent

/-!
# Derived fields

A connection can derive fields of its own from those of the article: a derivation takes the text of
one field through a number of steps and stores it under a name of its own. Derivations run in their
order, so that one can start from the result of another. Limits then shorten single fields.
-/

namespace Newswire.Message

namespace Derivation

inductive Step where
  | replace (search : String) (flags replacement : Option String)
  | percentEncode
  | upperCase
  | lowerCase
  | reformatDate (layout zone : Option String)
  deriving Repr, DecidableEq

end Derivation

structure Derivation where
  id : String := ""
  name : String := ""
  source : String := ""
  steps : List Derivation.Step := []
  deriving Repr, DecidableEq, Inhabited

/-- Shortens a field to a number of characters, behind which a mark may be put. -/
structure Limit where
  field : String := ""
  length : Nat := 0
  mark : Option String := none
  deriving Repr, DecidableEq, Inhabited

namespace Derivation

/-- The name under which the result is stored. -/
def field (d : Derivation) : String := "custom::" ++ d.name

def defaultFlags : String := "gmi"

def defaultLayout : String := "%Y-%m-%dT%H:%M:%S%:z"

/-- Takes one flag into account; the first part says whether all matches are replaced. -/
def setFlag : Bool × Pattern.Flags → Char → Except PatternCause (Bool × Pattern.Flags)
  | (_, fs), 'g' => .ok (true, fs)
  | (everywhere, fs), 'i' => .ok (everywhere, { fs with ignoreCase := true })
  | (everywhere, fs), 'm' => .ok (everywhere, { fs with multiLine := true })
  | (everywhere, fs), 's' => .ok (everywhere, { fs with dotAll := true })
  | p, 'u' => .ok p
  | _, c => .error (.unknownFlag c)

/-- The pattern of a replacement step, and whether all its matches are replaced. -/
def compile (search flags : String) : Except PatternCause (Bool × Pattern) := do
  let (everywhere, fs) ← flags.toList.foldlM setFlag (false, {})
  match Pattern.compile Pattern.runLimit fs search with
  | .ok p => return (everywhere, p)
  | .error refusal => throw (.refused refusal)

/-- A date in another layout and on the clock of a zone. What is no date, a zone that does not exist
and a faulty layout give nothing. -/
def reformat (layout zone : Option String) (text : String) : String :=
  let layout := layout.getD defaultLayout
  match Calendar.Moment.read? text with
  | none => ""
  | some m =>
    match zone with
    | none => Calendar.Layout.write m.universal layout
    | some name =>
      match Calendar.Zone.find? name with
      | some z => Calendar.Layout.write (m.inZone z) layout
      | none => ""

def Step.apply (derivation : String) (text : String) : Step → Except Failure String
  | replace search flags replacement =>
    if search = "" then .ok text
    else
      match compile search (flags.getD defaultFlags) with
      | .ok (everywhere, p) =>
        .ok (trimmed (Pattern.Replacement.apply p everywhere (replacement.getD "") text))
      | .error cause => .error (.badPattern derivation search cause)
  | percentEncode => .ok (Text.Percent.encode text)
  | upperCase => .ok (String.ofList (Text.toUpper text.toList))
  | lowerCase => .ok (String.ofList (Text.toLower text.toList))
  | reformatDate layout zone => .ok (reformat layout zone text)

/-- What the steps make of a text. They are not run on an empty one. -/
def made (d : Derivation) (text : String) : Except Failure String :=
  if text = "" then .ok "" else d.steps.foldlM (Step.apply d.name) text

/-- The text of a derived field. -/
def result (d : Derivation) (fields : Fields) : Except Failure String :=
  d.made (fields.value d.source)

/-- Adds a derived field. -/
def addTo (fields : Fields) (d : Derivation) : Except Failure Fields :=
  (fields.insert d.field ·) <$> d.result fields

/-- Adds the derived fields in their order. -/
def addAll (fields : Fields) (ds : List Derivation) : Except Failure Fields :=
  ds.foldlM addTo fields

/-- The kinds of steps by their names. -/
inductive Kind where
  | replace
  | percentEncode
  | upperCase
  | lowerCase
  | reformatDate

def kinds : List (String × Kind) :=
  [("REGEX", .replace), ("URL_ENCODE", .percentEncode), ("UPPERCASE", .upperCase),
   ("LOWERCASE", .lowerCase), ("DATE_FORMAT", .reformatDate)]

/-- A replacement step that is being read. -/
structure ReplaceDraft where
  search : String := ""
  flags : Option String := none
  replacement : Option String := none

/-- A step without settings; whatever an object gives besides the tag is passed over. -/
def bare (s : Step) : Json → Except Json.Misfit Step
  | .obj _ => .ok s
  | .arr [] => .ok s
  | _ => .error .malformed

def Step.decode (setting : Json.Setting) (j : Json) : Except Json.Misfit Step := do
  let (tag, body) ← Json.untag "type" j
  match ← Json.chooseTag setting kinds tag with
  | .replace =>
    let d ← Json.record ({} : ReplaceDraft)
      [.requires "regexSearch" Json.Decoder.text fun s d => { d with search := s },
       .allows "regexSearchFlags" (.nullable .text) fun s d => { d with flags := s },
       .allows "replacementString" (.nullable .text) fun s d => { d with replacement := s }] body
    return .replace d.search d.flags d.replacement
  | .percentEncode => bare .percentEncode body
  | .upperCase => bare .upperCase body
  | .lowerCase => bare .lowerCase body
  | .reformatDate =>
    let (layout, zone) ← Json.record ((none, none) : Option String × Option String)
      [.allows "format" (.nullable .text) fun s p => (s, p.2),
       .allows "timezone" (.nullable .text) fun s p => (p.1, s)] body
    return .reformatDate layout zone

def Step.encode : Step → Json
  | replace search flags replacement =>
    .obj [("type", .str "REGEX"), ("regexSearch", .str search),
          ("regexSearchFlags", .ofText? flags), ("replacementString", .ofText? replacement)]
  | percentEncode => .obj [("type", .str "URL_ENCODE")]
  | upperCase => .obj [("type", .str "UPPERCASE")]
  | lowerCase => .obj [("type", .str "LOWERCASE")]
  | reformatDate layout zone =>
    .obj [("type", .str "DATE_FORMAT"), ("format", .ofText? layout), ("timezone", .ofText? zone)]

def decode (setting : Json.Setting) : Json.Decoder Derivation :=
  Json.record {}
    [.allows "id" .text fun s d => { d with id := s },
     .requires "referenceName" .text fun s d => { d with name := s },
     .requires "sourcePlaceholder" .text fun s d => { d with source := s },
     .allows "steps" (.list (Step.decode setting)) fun ss d => { d with steps := ss }]

def encode (d : Derivation) : Json :=
  .obj [("id", .str d.id), ("referenceName", .str d.name), ("sourcePlaceholder", .str d.source),
        ("steps", .arr (d.steps.map Step.encode))]

end Derivation

namespace Limit

/-- Shortens a text; the mark is put only where something was left out. -/
def shorten (l : Limit) (text : String) : String :=
  let (kept, wasCut) := truncate l.length text.toList
  String.ofList kept ++ (if wasCut then l.mark.getD "" else "")

/-- Shortens the field that the limit is for, if it is there. -/
def applyTo (fields : Fields) (l : Limit) : Fields :=
  match fields.get? l.field with
  | some text => fields.insert l.field (l.shorten text)
  | none => fields

def applyAll (fields : Fields) (ls : List Limit) : Fields := ls.foldl applyTo fields

def decode : Json.Decoder Limit :=
  Json.record {}
    [.requires "placeholder" .text fun s l => { l with field := s },
     .requires "characterCount" .nat64 fun n l => { l with length := n },
     .allows "appendString" (.nullable .text) fun s l => { l with mark := s }]

def encode (l : Limit) : Json :=
  .obj [("placeholder", .str l.field), ("characterCount", .int l.length),
        ("appendString", .ofText? l.mark)]

end Limit

end Newswire.Message
