import Newswire.Calendar.Moment.Writer
import Newswire.Dispatch.Service
import Newswire.Program.Path
import Newswire.Store.Archive

/-!
# The program

The program reads events, one on a line, and writes what goes out about them; messages are put into
an outbox. It uses the place where it runs only through a few operations, so that it can be looked
at without a real disk.

Left out are the lines of the log, of which only the file is made; the tables in which a database
keeps the stores, and how those of an older version are brought up to date; and whatever depends on
how long something takes, such as the pruning that is repeated every hour after the first.
-/

namespace Newswire.Program

/-- What the program asks of the place where it runs. -/
structure Host (m : Type → Type) where
  /-- The text of a file, if there is one. -/
  read : String → m (Option String)
  /-- Makes sure that there is a file, and says whether it can be written to. -/
  touch : String → m Bool
  /-- Puts a text in the place of what a file holds. -/
  replace : String → String → m Unit
  /-- Adds a line to a file. -/
  append : String → String → m Unit
  /-- Writes a line of output. -/
  print : String → m Unit
  /-- Tells those who run the program something. -/
  note : String → m Unit
  /-- The present. -/
  now : m Instant
  /-- A name that nobody else has. -/
  name : m String

def settingsFile : String := "config.toml"

/-- The variables that the program looks at. -/
def variableNames : List String := ["FEEDRELAY_DATABASE_PATH", "FEEDRELAY_LOG_LEVEL"]

structure Session where
  settings : Settings
  service : Dispatch.Service

section

variable {m : Type → Type} [Monad m] (host : Host m)

/-- The settings of a file, or the defaults if it cannot be used, overridden by variables. -/
def settings (vs : Settings.Variables) : m Settings := do
  let document ← host.read settingsFile
  match document.map Settings.read with
  | some (.ok s) => return s.overriddenBy vs
  | some (.error e) =>
    host.note ("Failed to load " ++ settingsFile ++ ": " ++ e.text)
    return ({} : Settings).overriddenBy vs
  | none =>
    host.note ("Failed to load " ++ settingsFile ++ ": no such file")
    return ({} : Settings).overriddenBy vs

/-- The stores that are kept under a path. -/
def openStores (path : String) : m (Option Stores) := do
  match storesFile? path with
  | none => return none
  | some file =>
    if ← host.touch file then
      return ((← host.read file).getD "" |> Store.Archive.ofText?)
    else return none

/-- Keeps the stores in their file. -/
def save (s : Session) : m Unit := do
  if let some file := storesFile? s.settings.database.path then
    host.replace file (Store.Archive.text s.service.world.stores)

/-- Removes old reservations; it does not matter whether that succeeds. -/
def prune (s : Session) : m Session := do
  let (_, world) :=
    (Run.prune (← host.now) s.settings.delivery.retention).run.run {} s.service.world
  return { s with service := { s.service with world } }

/-- Starts the program. Without a log file it goes on, but not without stores or an outbox. -/
def start (vs : Settings.Variables) : m (Option Session) := do
  let settings ← settings host vs
  match settings.check with
  | .error e =>
    host.note ("Invalid configuration: " ++ e.text)
    return none
  | .ok () =>
    if let some path := settings.logging.file then
      if !(← host.touch path) then host.note ("Failed to open log file " ++ path)
    match ← openStores host settings.database.path with
    | none =>
      host.note ("Failed to open database " ++ settings.database.path)
      return none
    | some stores =>
      let session ← prune host { settings, service := { world := { stores } } }
      save host session
      if ← host.touch settings.delivery.outbox then return some session
      else
        host.note ("Failed to open outbox " ++ settings.delivery.outbox)
        return none

/-- A message as a line of the outbox. -/
def outboxLine (now : Instant) (s : Sending) : String :=
  (Json.obj
    [("connectionId", .str s.connection), ("target", s.target.encode),
     ("payload", s.payload.encode),
     ("queuedAt", .str (Calendar.Moment.ofInstant now).timestamp)]).compact

/-- The lines of output about an event that has been handled. -/
def outputLines (r : Dispatch.Reported Dispatch.Result) : List String :=
  match r.result with
  | .ok report => report.events.map fun e => e.encode.compact
  | .error e =>
    [(Json.obj
      [("kind", .str "run-failed"), ("feedId", .str r.feed), ("retryable", .bool e.isRetryable),
       ("error", .str e.text)]).compact]

/-- Handles an event. -/
def serve (s : Session) (e : Event.Input) : m Session := do
  let asked ← host.now
  let now ← host.now
  let setup : Run.Setup := { settings := s.settings.delivery, now, asked, holder := ← host.name }
  let before := s.service.world.sent.length
  let (reported, service) := s.service.serve s.settings.dispatch setup {} e
  for message in service.world.sent.drop before do
    host.append s.settings.delivery.outbox (outboxLine now message)
  let s := { s with service }
  save host s
  for r in reported do
    for line in outputLines r do host.print line
  return s

/-- Takes a line of input. A blank one is passed over, and so is one that holds no event. -/
def takeLine (s : Session) (line : String) : m Session := do
  if !shows line then return s
  match Json.decodeText Event.Input.decode line with
  | .ok e => serve host s e
  | .error _ =>
    host.note "Ignoring malformed input event"
    return s

end

end Newswire.Program
