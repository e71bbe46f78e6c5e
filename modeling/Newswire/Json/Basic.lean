/-!
# JSON values

A value as it was written: the members of an object keep their order and their repetitions, and
whole numbers are kept apart from those with a fraction or an exponent. Two further constructors
stand for what has no value. `unreadable` is well-formed text that denotes nothing (half of a
surrogate pair, a number out of range, arrays nested too deep); `broken` is the place where the text
stopped being JSON, and nothing follows it.
-/

namespace Newswire

inductive Json where
  | null
  | bool (b : Bool)
  | int (n : Int)
  | real (lexeme : String)
  | str (s : String)
  | arr (items : List Json)
  | obj (members : List (String × Json))
  | unreadable
  | broken
  deriving Repr, BEq, Inhabited

namespace Json

mutual

/-- Every part of the value passes the test. -/
def allParts (p : Json → Bool) : Json → Bool
  | arr items => p (arr items) && allItems p items
  | obj members => p (obj members) && allMembers p members
  | j => p j

def allItems (p : Json → Bool) : List Json → Bool
  | [] => true
  | j :: rest => allParts p j && allItems p rest

def allMembers (p : Json → Bool) : List (String × Json) → Bool
  | [] => true
  | (_, j) :: rest => allParts p j && allMembers p rest

end

/-- The text was JSON to the end of this value. -/
def isWhole : Json → Bool :=
  allParts fun
    | broken => false
    | _ => true

/-- The text was JSON to the end of this value, and each part of it denotes something. -/
def isReadable : Json → Bool :=
  allParts fun
    | broken => false
    | unreadable => false
    | _ => true

mutual

/-- How deep the parts of a value lie inside one another. -/
def depth : Json → Nat
  | arr items => depthOfItems items + 1
  | obj members => depthOfMembers members + 1
  | _ => 0

def depthOfItems : List Json → Nat
  | [] => 0
  | j :: rest => max (depth j) (depthOfItems rest)

def depthOfMembers : List (String × Json) → Nat
  | [] => 0
  | (_, j) :: rest => max (depth j) (depthOfMembers rest)

end

/-- The value of the first member of that name. -/
def get? (name : String) : Json → Option Json
  | obj members => (members.find? fun m => m.1 == name).map Prod.snd
  | _ => none

/-- A text, or `null` where there is none. -/
def ofText? : Option String → Json
  | none => null
  | some s => str s

/-- A whole number, or `null` where there is none. -/
def ofNat? : Option Nat → Json
  | none => null
  | some n => int n

/-- Puts a member in front of the first one with a greater name. -/
def place (m : String × Json) : List (String × Json) → List (String × Json)
  | [] => [m]
  | n :: rest => if m.1 < n.1 then m :: n :: rest else n :: place m rest

mutual

/-- The same value with the members of every object in the order of their names; of several members
of one name the last is kept. -/
def sorted : Json → Json
  | arr items => arr (sortedItems items)
  | obj members => obj (sortedMembers members)
  | j => j

def sortedItems : List Json → List Json
  | [] => []
  | j :: rest => sorted j :: sortedItems rest

def sortedMembers : List (String × Json) → List (String × Json)
  | [] => []
  | (name, j) :: rest =>
    let later := sortedMembers rest
    if later.any fun m => m.1 == name then later else place (name, sorted j) later

end

end Json

end Newswire
