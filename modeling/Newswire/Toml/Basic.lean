/-!
# TOML documents

A document is a table of values. Each table remembers how it came about, because that decides which
lines may still add to it: a table with a header of its own is not defined again, one that follows
from dotted keys is only extended by dotted keys, and an inline table is complete.
-/

namespace Newswire

namespace Toml

inductive Origin where
  /-- By a header. -/
  | header
  /-- By the header of a table inside it. -/
  | implied
  /-- By a dotted key. -/
  | dotted
  | inline
  deriving Repr, DecidableEq

end Toml

inductive Toml where
  | text (s : String)
  | whole (n : Int)
  | flag (b : Bool)
  | real (lexeme : String)
  | date (lexeme : String)
  | list (items : List Toml)
  | table (origin : Toml.Origin) (entries : List (String × Toml))
  /-- An array of tables, each of which has a header. -/
  | tables (items : List (List (String × Toml)))
  deriving Repr, Inhabited

namespace Toml

abbrev Entries := List (String × Toml)

def Entries.find? (es : Entries) (key : String) : Option Toml :=
  (List.find? (fun e => e.1 == key) es).map Prod.snd

/-- Puts a value in the place of the one that a key has, or behind all entries. -/
def Entries.put (es : Entries) (key : String) (v : Toml) : Entries :=
  if es.any fun e => e.1 == key then es.map fun e => if e.1 == key then (key, v) else e
  else es ++ [(key, v)]

/-- Changes the last table of an array of tables. -/
def changeLast (f : Entries → Option Entries) : List Entries → Option (List Entries)
  | [] => none
  | [es] => (f es).map fun es => [es]
  | es :: rest => (changeLast f rest).map (es :: ·)

/-- Adds the value of a dotted key. A table on the way must not have a header of its own, nor be
inline; the one that takes the value must itself have come about by dotted keys. -/
def Entries.add : List String → String → Toml → Entries → Option Entries
  | [], key, v, es => if (es.find? key).isSome then none else some (es.put key v)
  | k :: path, key, v, es =>
    match es.find? k with
    | none => (Entries.add path key v []).map fun inner => es.put k (.table .dotted inner)
    | some (.table origin inner) =>
      if origin = .dotted ∨ (origin = .implied ∧ !path.isEmpty) then
        (Entries.add path key v inner).map fun inner => es.put k (.table origin inner)
      else none
    | some (.tables items) =>
      if path.isEmpty then none
      else (changeLast (Entries.add path key v) items).map fun items => es.put k (.tables items)
    | some _ => none

/-- Changes the table that a header names; tables on the way come about by it. An array of tables
stands for its last table. -/
def Entries.changeAt (f : Entries → Option Entries) : List String → Entries → Option Entries
  | [], es => f es
  | k :: path, es =>
    match es.find? k with
    | none => (Entries.changeAt f path []).map fun inner => es.put k (.table .implied inner)
    | some (.table origin inner) =>
      if origin = .inline then none
      else (Entries.changeAt f path inner).map fun inner => es.put k (.table origin inner)
    | some (.tables items) =>
      (changeLast (Entries.changeAt f path) items).map fun items => es.put k (.tables items)
    | some _ => none

/-- Takes note of the header of a table, in the table around it. -/
def Entries.define (key : String) (es : Entries) : Option Entries :=
  match es.find? key with
  | none => some (es.put key (.table .header []))
  | some (.table .implied inner) => some (es.put key (.table .header inner))
  | some _ => none

/-- Takes note of the header of one more table of an array, in the table around it. -/
def Entries.defineNext (key : String) (es : Entries) : Option Entries :=
  match es.find? key with
  | none => some (es.put key (.tables [[]]))
  | some (.tables items) => some (es.put key (.tables (items ++ [[]])))
  | some _ => none

end Toml

end Newswire
