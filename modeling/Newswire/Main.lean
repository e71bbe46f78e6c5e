import Newswire.Program.Input
import Newswire.Program.Path
import Newswire.Program.Session
import Std.Time.DateTime.Timestamp

/-!
# The command line

The program on a real disk: settings and variables from where it is started, events from the
standard input, and what goes out on the standard output.
-/

namespace Newswire.Program

/-- Whether something can be done. -/
def succeeds (act : IO Unit) : IO Bool := do
  try
    act
    return true
  catch _ => return false

def readText (path : String) : IO (Option String) := do
  try
    return some (← IO.FS.readFile path)
  catch _ => return none

def addLine (path line : String) : IO Unit := do
  let file ← IO.FS.Handle.mk path .append
  file.putStrLn line

def touchFile (path : String) : IO Unit := do
  if let some directory := directory? path then IO.FS.createDirAll directory
  let _ ← IO.FS.Handle.mk path .append

def printLine (line : String) : IO Unit := do
  let out ← IO.getStdout
  out.putStrLn line
  out.flush

def drawName : IO String := do
  let bytes ← IO.getRandomBytes 16
  return String.join (bytes.toList.map toString)

/-- The machine that the program has been started on. -/
def machine : Host IO where
  read := readText
  touch path := succeeds (touchFile path)
  replace path text := IO.FS.writeFile path text
  append := addLine
  print := printLine
  note := IO.eprintln
  now := return ⟨(← Std.Time.Timestamp.now).toNanosecondsSinceUnixEpoch.val⟩
  name := drawName

def environment : IO Settings.Variables := do
  let values ← variableNames.mapM fun name => return (name, (← IO.getEnv name).getD "")
  return values

/-- Takes line after line, and what is left at the end as one more. -/
partial def takeAll (input : IO.FS.Stream) (s : Session) (bytes : List UInt8) : IO Unit := do
  match cutLine? bytes with
  | some (line, rest) =>
    if let some text := textOf? line then takeAll input (← takeLine machine s text) rest
  | none =>
    let more ← input.read 65536
    if more.isEmpty then
      for text in lines bytes do
        let _ ← takeLine machine s text
    else takeAll input s (bytes ++ more.toList)

end Newswire.Program

def main : IO UInt32 := do
  match ← Newswire.Program.start Newswire.Program.machine (← Newswire.Program.environment) with
  | none => return 1
  | some s =>
    Newswire.Program.takeAll (← IO.getStdin) s []
    return 0
