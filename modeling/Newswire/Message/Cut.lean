import Newswire.Json.Record
import Newswire.Text.Blank

/-!
# Cutting long texts

A text that is too long for one message is cut into pieces behind its punctuation, or behind a
blank, or else wherever the room ends. The pieces together are the text again; each of them is then
wrapped in the markers of the connection, for which room is kept.
-/

namespace Newswire.Message

/-- How long texts are cut. -/
structure Cutting where
  enabled : Option Bool := none
  separator : Option String := none
  appended : Option String := none
  prepended : Option String := none
  limit : Option Nat := none
  deriving Repr, DecidableEq, Inhabited

namespace Cutting

/-- Cutting is on unless it is switched off. -/
def isEnabled (c : Cutting) : Bool := c.enabled.getD true

/-- The texts behind which a cut is made, none of them empty. -/
def separators (c : Cutting) : List (List Char) :=
  match c.separator with
  | some s => if s = "" then [['.'], ['!'], ['?']] else [s.toList]
  | none => [['.'], ['!'], ['?']]

def decode : Json.Decoder Cutting :=
  Json.record {}
    [.allows "isEnabled" (.nullable .bool) fun x c => { c with enabled := x },
     .allows "splitChar" (.nullable .text) fun x c => { c with separator := x },
     .allows "appendChar" (.nullable .text) fun x c => { c with appended := x },
     .allows "prependChar" (.nullable .text) fun x c => { c with prepended := x },
     .allows "limit" (.nullable .nat64) fun x c => { c with limit := x }]

def encode (c : Cutting) : Json :=
  .obj
    [("isEnabled", match c.enabled with | some b => .bool b | none => .null),
     ("splitChar", .ofText? c.separator), ("appendChar", .ofText? c.appended),
     ("prependChar", .ofText? c.prepended), ("limit", .ofNat? c.limit)]

end Cutting

/-- The length of the longest beginning of a text, given last character first, that `stops` at its
end; 0 if there is none. -/
def lastStop (stops : List Char → Bool) : List Char → Nat
  | [] => 0
  | c :: rest => if stops (c :: rest) then rest.length + 1 else lastStop stops rest

/-- The text, given last character first, ends with one of the separators. -/
def endsWithAny (separators : List (List Char)) (reversed : List Char) : Bool :=
  separators.any fun s => s.reverse.isPrefixOf reversed

/-- The text, given last character first, ends with a blank. -/
def endsWithBlank : List Char → Bool
  | c :: _ => Text.isBlank c
  | [] => false

/-- How many characters of a window are taken: up to the last separator, or the last blank, or
all. -/
def cutLength (separators : List (List Char)) (window : List Char) : Nat :=
  let reversed := window.reverse
  match lastStop (endsWithAny separators) reversed with
  | n + 1 => n + 1
  | 0 =>
    match lastStop endsWithBlank reversed with
    | n + 1 => n + 1
    | 0 => window.length

/-- The pieces of a text, each of at most `room` characters. -/
def pieces (separators : List (List Char)) (room : Nat) (text : List Char) : List (List Char) :=
  match text with
  | [] => []
  | c :: rest =>
    if (c :: rest).length ≤ room then [c :: rest]
    else
      let n := max 1 (cutLength separators ((c :: rest).take room))
      (c :: rest).take n :: pieces separators room ((c :: rest).drop n)
termination_by text.length
decreasing_by
  simp only [List.length_drop, List.length_cons]
  omega

/-- The markers around every piece, and the room they leave; markers that leave none are dropped. -/
def markers (c : Cutting) (limit : Nat) : List Char × List Char × Nat :=
  let before := (c.prepended.getD "").toList
  let after := (c.appended.getD "").toList
  if before.length + after.length < limit then
    (before, after, limit - (before.length + after.length))
  else ([], [], limit)

/-- The parts that a text is sent in, each of at most `limit` characters. -/
def parts (c : Cutting) (limit : Nat) (text : List Char) : List (List Char) :=
  let limit := max limit 1
  if text.length ≤ limit then [text]
  else
    let (before, after, room) := markers c limit
    (pieces c.separators room text).map fun piece => before ++ piece ++ after

/-- The first part of a text, without markers. -/
def firstPart (c : Cutting) (limit : Nat) (text : List Char) : List Char :=
  ((pieces c.separators (max limit 1) text).head?).getD []

/-- The first `limit` characters, and whether anything was left out. -/
def truncate (limit : Nat) (text : List Char) : List Char × Bool :=
  (text.take limit, decide (limit < text.length))

end Newswire.Message
