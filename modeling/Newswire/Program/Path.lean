/-!
# Paths of files

A path is followed name by name, from the root or from the directory of the program. Two dots lead
back; a blank name and a single dot lead nowhere.
-/

namespace Newswire.Program

/-- Splits a text at a character. -/
def cutAt (c : Char) (cs : List Char) : List (List Char) :=
  cs.foldr
    (fun d parts =>
      match parts with
      | [] => [[d]]
      | part :: rest => if d = c then [] :: part :: rest else (d :: part) :: rest)
    [[]]

/-- The names that a path goes through, without those that lead nowhere. -/
def steps (path : String) : List String :=
  ((cutAt '/' path.toList).map String.ofList).filter fun name => name != "" && name != "."

/-- The path begins at the root. -/
def isRooted (path : String) : Bool := path.toList.head? = some '/'

/-- The path ends with a name that leads nowhere, so that only a directory can be meant. -/
def endsOpen (path : String) : Bool :=
  match (cutAt '/' path.toList).getLast? with
  | some name => name.isEmpty || name == ['.']
  | none => true

def joined (rooted : Bool) (names : List String) : String :=
  (if rooted then "/" else "") ++ String.intercalate "/" names

/-- The path of the directory that a file is in, unless it is one that a path begins at. -/
def directory? (path : String) : Option String :=
  match (steps path).dropLast with
  | [] => none
  | names => some (joined (isRooted path) names)

/-- The file in which stores are kept under a path, whose end may lead nowhere. Stores that have no
name or are held in memory would not be the same for all who open them, and are not to be had. -/
def storesFile? (path : String) : Option String :=
  if path = ":memory:" then none
  else
    match steps path with
    | [] => none
    | names => some (joined (isRooted path) names)

/-- Where a path leads: the names below the root, or below the directory of the program. What is
outside of the latter begins with two dots. -/
structure Place where
  rooted : Bool
  names : List String
  deriving Repr, DecidableEq, Inhabited

namespace Place

/-- Goes on to a name; there is nothing above the root. -/
def step (p : Place) (name : String) : Place :=
  if name != ".." then { p with names := p.names ++ [name] }
  else if p.names.getLast?.any (· != "..") then { p with names := p.names.dropLast }
  else if p.rooted then p
  else { p with names := p.names ++ [".."] }

/-- Where the path begins. -/
def start (path : String) : Place := ⟨isRooted path, []⟩

def ofPath (path : String) : Place := (steps path).foldl step (start path)

/-- The place is one at which paths begin, or above it. -/
def isStart (p : Place) : Bool := p.names.all (· == "..")

/-- The place is in the directory of the program or below it. -/
def isInside (p : Place) : Bool := !p.rooted && p.names.head? != some ".."

def text (p : Place) : String := joined p.rooted p.names

end Place

end Newswire.Program
