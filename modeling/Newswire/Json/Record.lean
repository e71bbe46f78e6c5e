import Newswire.Json.Reader

/-!
# Reading records out of JSON

A record is written as an object with its fields by name, or as an array of its fields in their
order. Fields are read from the front, so that of two wrong fields the first one decides; a field
given twice is refused, and one that the record does not have is passed over.
-/

namespace Newswire.Json

/-- Why a value does not fit. A blank connection identifier is told apart from all other causes. -/
inductive Misfit where
  | malformed
  | blankConnection
  deriving Repr, DecidableEq

abbrev Decoder (α : Type) := Json → Except Misfit α

/-- A field of a record that is being filled in. -/
structure Field (σ : Type) where
  name : String
  required : Bool
  read : Json → σ → Except Misfit σ

namespace Decoder

variable {α : Type}

def bool : Decoder Bool
  | .bool b => .ok b
  | _ => .error .malformed

def text : Decoder String
  | .str s => .ok s
  | _ => .error .malformed

/-- A whole number below `bound`. -/
def natBelow (bound : Nat) : Decoder Nat
  | .int n => if 0 ≤ n ∧ n < bound then .ok n.toNat else .error .malformed
  | _ => .error .malformed

def nat16 : Decoder Nat := natBelow 0x10000

def nat32 : Decoder Nat := natBelow 0x100000000

def nat64 : Decoder Nat := natBelow 0x10000000000000000

/-- A whole number of sixty-four bits with a sign. -/
def int64 : Decoder Int
  | .int n => if -0x8000000000000000 ≤ n ∧ n < 0x8000000000000000 then .ok n else .error .malformed
  | _ => .error .malformed

/-- `null` stands for nothing. -/
def nullable (d : Decoder α) : Decoder (Option α)
  | .null => .ok none
  | j => some <$> d j

def list (d : Decoder α) : Decoder (List α)
  | .arr items => items.mapM d
  | _ => .error .malformed

end Decoder

section

variable {σ α : Type}

def Field.requires (name : String) (d : Decoder α) (set : α → σ → σ) : Field σ :=
  ⟨name, true, fun j draft => (set · draft) <$> d j⟩

def Field.allows (name : String) (d : Decoder α) (set : α → σ → σ) : Field σ :=
  ⟨name, false, fun j draft => (set · draft) <$> d j⟩

/-- Reads one member; `seen` are the names read before it. -/
def readMember (fields : List (Field σ)) :
    List String × σ → String × Json → Except Misfit (List String × σ)
  | (seen, draft), (name, j) =>
    match fields.find? fun f => f.name == name with
    | some f => do
      if seen.contains name then throw .malformed
      let draft ← f.read j draft
      return (name :: seen, draft)
    | none => if j.isWhole then .ok (seen, draft) else .error .malformed

/-- Reads the parts of an array as the fields in their order. -/
def readParts : List (Field σ) → List Json → σ → Except Misfit σ
  | [], [], draft => .ok draft
  | [], _ :: _, _ => .error .malformed
  | f :: fields, [], draft =>
    if f.required then .error .malformed else readParts fields [] draft
  | f :: fields, j :: items, draft => do
    let draft ← f.read j draft
    readParts fields items draft

/-- A record with the given fields, which starts out as `blank`. -/
def record (blank : σ) (fields : List (Field σ)) : Decoder σ
  | .obj members => do
    let (seen, draft) ← members.foldlM (readMember fields) ([], blank)
    if fields.any fun f => f.required && !seen.contains f.name then throw .malformed
    return draft
  | .arr items => readParts fields items blank
  | _ => .error .malformed

end

/-- The tag of a tagged value and the rest of it. The tag is the member of the name `key`, or the
first part of an array. A value whose text is faulty anywhere has no tag. -/
def untag (key : String) (j : Json) : Except Misfit (Json × Json) :=
  if !j.isReadable then .error .malformed
  else
    match j with
    | .obj members =>
      match members.filter fun m => m.1 == key with
      | [(_, tag)] => .ok (tag, .obj (members.filter fun m => m.1 != key))
      | _ => .error .malformed
    | .arr (tag :: rest) => .ok (tag, .arr rest)
    | _ => .error .malformed

/-- Where a tag is looked up: inside another tagged value it may be given by its position among the
choices instead of its name. -/
inductive Setting where
  | outer
  | inner
  deriving Repr, DecidableEq

/-- The choice that a tag names. -/
def chooseTag {α : Type} (setting : Setting) (choices : List (String × α)) :
    Json → Except Misfit α
  | .str name =>
    match choices.find? fun c => c.1 == name with
    | some c => .ok c.2
    | none => .error .malformed
  | .int n =>
    match setting, n with
    | .inner, .ofNat k =>
      match choices[k]? with
      | some c => .ok c.2
      | none => .error .malformed
    | _, _ => .error .malformed
  | _ => .error .malformed

/-- One of a list of names; it may also be written as the only member of an object, with nothing as
its value. -/
def chooseName {α : Type} (choices : List (String × α)) : Json → Except Misfit α
  | .str name => chooseTag .outer choices (.str name)
  | .obj [(name, .null)] => chooseTag .outer choices (.str name)
  | .obj [(name, .obj [])] => chooseTag .outer choices (.str name)
  | _ => .error .malformed

/-- The value that a whole text holds; a value that does not fit is found before a fault that
follows it in the text. -/
def decodeText {α : Type} (d : Decoder α) (text : String) : Except Misfit α := do
  let (j, complete) := read text
  let a ← d j
  if complete then return a else throw .malformed

end Newswire.Json
