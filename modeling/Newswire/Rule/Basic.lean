import Newswire.Json.Record

/-!
# Rules

A rule is a tree of comparisons over the fields of an article. It says which articles a connection
lets through.
-/

namespace Newswire

/-- What a comparison looks at. -/
inductive Comparison where
  | equals
  | contains
  | matching
  deriving Repr, DecidableEq

/-- A comparison, or its opposite. -/
structure Relation where
  comparison : Comparison
  negated : Bool
  deriving Repr, DecidableEq

namespace Relation

/-- The relations by the names they have in written rules. -/
def names : List (String × Relation) :=
  [("EQ", ⟨.equals, false⟩), ("NOT_EQ", ⟨.equals, true⟩),
   ("CONTAINS", ⟨.contains, false⟩), ("NOT_CONTAINS", ⟨.contains, true⟩),
   ("MATCHES", ⟨.matching, false⟩), ("NOT_MATCHES", ⟨.matching, true⟩)]

def name : Relation → String
  | ⟨.equals, false⟩ => "EQ"
  | ⟨.equals, true⟩ => "NOT_EQ"
  | ⟨.contains, false⟩ => "CONTAINS"
  | ⟨.contains, true⟩ => "NOT_CONTAINS"
  | ⟨.matching, false⟩ => "MATCHES"
  | ⟨.matching, true⟩ => "NOT_MATCHES"

/-- The relation that holds where this one does not. -/
def opposite (r : Relation) : Relation := { r with negated := !r.negated }

theorem mem_names (r : Relation) : (r.name, r) ∈ names := by
  obtain ⟨c, n⟩ := r
  cases c <;> cases n <;> decide

end Relation

/-- The right side of a comparison: a text, or the value of another field. -/
inductive Operand where
  | text (s : String)
  | field (name : String)
  deriving Repr, DecidableEq

inductive Junction where
  | all
  | any
  deriving Repr, DecidableEq

namespace Junction

def names : List (String × Junction) := [("AND", .all), ("OR", .any)]

def name : Junction → String
  | all => "AND"
  | any => "OR"

end Junction

inductive Rule where
  | group (junction : Junction) (rules : List Rule)
  | negation (rule : Rule)
  | compare (relation : Relation) (field : String) (operand : Operand)
  deriving Repr

instance : Inhabited Rule := ⟨.group .all []⟩

namespace Rule

/-- A step from a rule to one of its parts. -/
inductive Step where
  | item (index : Nat)
  | inner
  | left
  | right
  deriving Repr, DecidableEq

def Step.text : Step → String
  | item index => ".children[" ++ toString index ++ "]"
  | inner => ".child"
  | left => ".left"
  | right => ".right"

/-- The steps from the root to a part. -/
abbrev Path := List Step

def Path.text (p : Path) : String := "root" ++ String.join (p.map Step.text)

end Rule

namespace Operand

inductive Kind where
  | text
  | field

/-- The tag and the content of an operand that is being read. -/
structure Parts where
  kind : Kind := .text
  content : String := ""

def decode (j : Json) : Except Json.Misfit Operand := do
  let parts ← Json.record ({} : Parts)
    [.requires "type" (Json.chooseName [("STRING", Kind.text), ("FIELD", Kind.field)])
      fun k p => { p with kind := k },
     .requires "value" Json.Decoder.text fun s p => { p with content := s }] j
  match parts.kind with
  | .text => return .text parts.content
  | .field => return .field parts.content

def encode : Operand → Json
  | text s => .obj [("type", .str "STRING"), ("value", .str s)]
  | field name => .obj [("type", .str "FIELD"), ("value", .str name)]

end Operand

namespace Rule

inductive Kind where
  | group
  | negation
  | compare

def kinds : List (String × Kind) :=
  [("LOGICAL", .group), ("NOT", .negation), ("RELATIONAL", .compare)]

/-- A group that is being read. -/
structure GroupDraft where
  junction : Junction := .all
  rules : List Rule := []

/-- A comparison that is being read. -/
structure CompareDraft where
  relation : Relation := ⟨.equals, false⟩
  field : String := ""
  operand : Operand := .text ""

/-- Reads a rule that lies at most `fuel` levels deep. Only the tag of the outermost rule depends on
the setting: the parts of a rule are inside a tagged value. -/
def decodeWithin : Nat → Json.Setting → Json.Decoder Rule
  | 0, _, _ => .error .malformed
  | fuel + 1, setting, j => do
    let (tag, body) ← Json.untag "type" j
    match ← Json.chooseTag setting kinds tag with
    | .group =>
      let g ← Json.record ({} : GroupDraft)
        [.requires "op" (Json.chooseName Junction.names) fun x g => { g with junction := x },
         .allows "children" (Json.Decoder.list (decodeWithin fuel .inner))
           fun rs g => { g with rules := rs }] body
      return .group g.junction g.rules
    | .negation =>
      let r ← Json.record (none : Option Rule)
        [.requires "child" (decodeWithin fuel .inner) fun r _ => some r] body
      match r with
      | some r => return .negation r
      | none => throw .malformed
    | .compare =>
      let c ← Json.record ({} : CompareDraft)
        [.requires "op" (Json.chooseName Relation.names) fun x c => { c with relation := x },
         .requires "left" Json.Decoder.text fun s c => { c with field := s },
         .requires "right" Operand.decode fun x c => { c with operand := x }] body
      return .compare c.relation c.field c.operand

def decode (setting : Json.Setting) : Json.Decoder Rule :=
  fun j => decodeWithin (j.depth + 1) setting j

mutual

def encode : Rule → Json
  | group junction rules =>
    .obj [("type", .str "LOGICAL"), ("op", .str junction.name),
          ("children", .arr (encodeAll rules))]
  | negation rule => .obj [("type", .str "NOT"), ("child", encode rule)]
  | compare relation field operand =>
    .obj [("type", .str "RELATIONAL"), ("op", .str relation.name), ("left", .str field),
          ("right", operand.encode)]

def encodeAll : List Rule → List Json
  | [] => []
  | r :: rest => encode r :: encodeAll rest

end

end Rule

end Newswire
