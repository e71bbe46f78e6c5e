import Newswire.Fields
import Newswire.Text.Blank

/-!
# Templates

A template is text with placeholders in double braces. A placeholder names a field; where
alternatives are switched on it may name several sources, separated by double bars, of which the
first that has something to say is used. A backslash in front makes double braces text.
-/

namespace Newswire.Message

/-- Where a placeholder takes its text from. -/
inductive Source where
  | field (name : List Char)
  | literal (text : List Char)
  deriving Repr, DecidableEq

inductive Node where
  | text (text : List Char)
  | placeholder (sources : List Source)
  deriving Repr, DecidableEq

namespace Template

/-- What a literal source starts with. -/
def literalMark : List Char := ['t', 'e', 'x', 't', ':', ':']

/-- Splits a text at the first closing double brace, which is in neither part. -/
def cutAtClose : List Char → Option (List Char × List Char)
  | '\x7d' :: '\x7d' :: rest => some ([], rest)
  | c :: rest => (cutAtClose rest).map fun p => (c :: p.1, p.2)
  | [] => none

theorem length_of_cutAtClose {cs accessor after : List Char}
    (h : cutAtClose cs = some (accessor, after)) : after.length < cs.length := by
  fun_induction cutAtClose cs generalizing accessor after with
  | case1 rest =>
    obtain ⟨-, rfl⟩ : [] = accessor ∧ rest = after := by simpa using h
    simp only [List.length_cons]
    omega
  | case2 c rest _ ih =>
    obtain ⟨p, hp, he⟩ := Option.map_eq_some_iff.1 h
    obtain ⟨-, rfl⟩ : c :: p.1 = accessor ∧ p.2 = after := by simpa using he
    have : p.2.length < rest.length := ih hp
    simp only [List.length_cons]
    omega
  | case3 => simp at h

/-- The texts between double bars. -/
def alternatives : List Char → List (List Char)
  | [] => [[]]
  | '|' :: '|' :: rest => [] :: alternatives rest
  | c :: rest =>
    match alternatives rest with
    | first :: more => (c :: first) :: more
    | [] => [[c]]

/-- A source with the mark of a literal is taken as it stands. -/
def sourceOf (part : List Char) : Source :=
  match literalMark.isPrefixOf? part with
  | some literal => .literal literal
  | none => .field (Text.trim part)

def sourcesOf (fallbacks : Bool) (accessor : List Char) : List Source :=
  let accessor := Text.trim accessor
  if fallbacks then (alternatives accessor).map sourceOf else [.field accessor]

/-- Puts text in front of nodes, joined to the text they start with. -/
def prepend (text : List Char) : List Node → List Node
  | .text more :: nodes => .text (text ++ more) :: nodes
  | nodes => .text text :: nodes

/-- The nodes of a template. Double braces that are never closed are text. -/
def parse (fallbacks : Bool) (cs : List Char) : List Node :=
  match cs with
  | [] => []
  | '\\' :: '\x7b' :: '\x7b' :: rest => prepend ['\x7b', '\x7b'] (parse fallbacks rest)
  | '\x7b' :: '\x7b' :: rest =>
    match _h : cutAtClose rest with
    | some (accessor, after) => .placeholder (sourcesOf fallbacks accessor) :: parse fallbacks after
    | none => [.text ('\x7b' :: '\x7b' :: rest)]
  | c :: rest => prepend [c] (parse fallbacks rest)
termination_by cs.length
decreasing_by
  · simp; omega
  · have := length_of_cutAtClose _h
    simp; omega
  · simp

/-- The text of the first source that has some; a literal always counts. -/
def resolve (fields : Fields) : List Source → List Char
  | [] => []
  | .literal text :: _ => text
  | .field name :: rest =>
    let value := fields.value (String.ofList name)
    if value = "" then resolve fields rest else value.toList

def renderNode (fields : Fields) : Node → List Char
  | .text text => text
  | .placeholder sources => resolve fields sources

def render (fields : Fields) (nodes : List Node) : List Char := nodes.flatMap (renderNode fields)

/-- Fills in a template. -/
def fill (fallbacks : Bool) (fields : Fields) (template : String) : List Char :=
  render fields (parse fallbacks template.toList)

end Template

end Newswire.Message
