import Newswire.Program.Input
import Newswire.Program.Path
import Newswire.Program.Session

/-!
# The program without a real disk

A disk that is only a map from places to texts, and the program run on it. Directories are there
once something has been put into them.
-/

namespace Newswire.Program

/-- Something that is not a directory, though it is no file either. -/
def device : Place := .ofPath "/dev/null"

structure Disk where
  files : List (Place × String) := []
  directories : List Place := []
  deriving Repr, DecidableEq, Inhabited

namespace Disk

/-- What a file or a directory may be called. -/
def canName (name : String) : Bool := name.utf8ByteSize ≤ 255 && !name.toList.contains '\x00'

/-- Directly below the root there are only directories. -/
def isDirectory (d : Disk) (p : Place) : Bool :=
  p.isStart || d.directories.contains p || (p.rooted && p.names.length = 1)

/-- Goes on from a directory to one in it, which is made unless it is there. -/
def enter? (d : Disk) (p : Place) (name : String) : Option (Place × Disk) :=
  let q := p.step name
  if d.isDirectory q then some (q, d)
  else if (d.files.lookup q).isSome || q == device || !canName name then none
  else some (q, { d with directories := d.directories ++ [q] })

/-- Makes the directories that names lead through. Those before a name at which that fails stay. -/
def enterAll (d : Disk) (p : Place) : List String → Option Place × Disk
  | [] => (some p, d)
  | name :: rest =>
    match d.enter? p name with
    | none => (none, d)
    | some (q, d) => d.enterAll q rest

def read (d : Disk) (path : String) : Option String := d.files.lookup (.ofPath path)

def put (d : Disk) (p : Place) (text : String) : Disk :=
  { d with files := d.files.filter (·.1 != p) ++ [(p, text)] }

def replace (d : Disk) (path text : String) : Disk := d.put (.ofPath path) text

/-- Makes a file and the directories that it is in, unless they are there. -/
def touch (d : Disk) (path : String) : Bool × Disk :=
  match (steps path).getLast? with
  | none => (false, d)
  | some name =>
    match d.enterAll (.start path) (steps path).dropLast with
    | (none, d) => (false, d)
    | (some p, d) =>
      let q := p.step name
      if endsOpen path || d.isDirectory q || !canName name then (false, d)
      else (true, if (d.files.lookup q).isSome then d else d.put q "")

/-- The paths in the directory of the program, in their order. -/
def paths (d : Disk) : List String :=
  let inside := (d.files.map Prod.fst).filter Place.isInside
  (inside.map Place.text).mergeSort fun a b => a ≤ b

end Disk

/-- A disk together with what is written to the output, and the present. -/
structure Machine where
  disk : Disk := {}
  output : List String := []
  now : Instant := ⟨0⟩
  /-- The number of names that have been given. -/
  names : Nat := 0
  deriving Repr, Inhabited

namespace Machine

/-- The machine as a place to run in. Time goes on by a millisecond whenever it is asked for. -/
def host : Host (StateM Machine) where
  read path := return (← get).disk.read path
  touch path := modifyGet fun m =>
    let (held, disk) := m.disk.touch path
    (held, { m with disk })
  replace path text := modify fun m => { m with disk := m.disk.replace path text }
  append path line := modify fun m =>
    { m with disk := m.disk.replace path ((m.disk.read path).getD "" ++ line ++ "\n") }
  print line := modify fun m => { m with output := m.output ++ [line] }
  note _ := pure ()
  now := modifyGet fun m =>
    let now : Instant := ⟨m.now.nanos + 1000000⟩
    (now, { m with now })
  name := modifyGet fun m => ("holder " ++ toString m.names, { m with names := m.names + 1 })

end Machine

/-- Runs the program on lines of input; the code with which it ends, and the machine afterwards. -/
def run (vs : Settings.Variables) (input : List UInt8) : StateM Machine Nat := do
  match ← start Machine.host vs with
  | none => return 1
  | some s =>
    let _ ← (lines input).foldlM (takeLine Machine.host) s
    return 0

end Newswire.Program
