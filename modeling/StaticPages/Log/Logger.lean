import StaticPages.Files.Access
import StaticPages.Json.Printer
import StaticPages.Log.Calendar
import StaticPages.Log.Event

namespace StaticPages.Log

/-- The directory that holds the settings and the logs of a project or a user. -/
def settingsDirectory (p : Path) : Path :=
  p.child ".pagewright"

def logsDirectory (p : Path) : Path :=
  (settingsDirectory p).child "logs"

/-- What tells one entry from all others: an identifier and an instant. -/
structure Stamp where
  id : String
  instant : Int
  deriving DecidableEq, Repr

/-- What is logged and where, and how many entries could not be written. -/
structure Logger where
  session : String
  level : Level := .info
  toGlobal : Bool := true
  toProject : Bool := true
  project : Option Path := none
  globalLogs : Option Path := none
  disabled : Bool := false
  failedWrites : Nat := 0
  deriving DecidableEq, Repr

/-- Changes to a logger. What is not given stays as it is. -/
structure Options where
  level : Option Level := none
  toGlobal : Option Bool := none
  toProject : Option Bool := none
  project : Option Path := none
  globalLogs : Option Path := none
  deriving DecidableEq, Repr

namespace Logger

def configure (l : Logger) (o : Options) : Logger :=
  { l with
    level := o.level.getD l.level
    toGlobal := o.toGlobal.getD l.toGlobal
    toProject := o.toProject.getD l.toProject
    project := o.project <|> l.project
    globalLogs := o.globalLogs <|> l.globalLogs }

def disable (l : Logger) : Logger := { l with disabled := true }

def enable (l : Logger) : Logger := { l with disabled := false }

def countFailure (l : Logger) : Logger := { l with failedWrites := l.failedWrites + 1 }

/-- Whether an entry of some level is logged at all. -/
def accepts (l : Logger) (level : Level) : Bool :=
  !l.disabled && l.level != .off && level.rank ≤ l.level.rank

/-- The line that an event makes in a log file, apart from the number of the process. -/
def line (l : Logger) (stamp : Stamp) (e : Event) : String :=
  Json.compact (.object [("id", .string stamp.id),
    ("timestamp", .string (Calendar.stampText stamp.instant)), ("level", .string e.level.name),
    ("type", .string e.typeName), ("sessionId", .string l.session), ("data", e.data)]) ++ "\n"

variable {m : Type → Type} [Monad m] [FileAccess m]

/-- The directories whose logs get an entry. A project is logged to only where it
    already has a settings directory. -/
def destinations (l : Logger) (home : Path) : m (List Path) := do
  let global := if l.toGlobal then [l.globalLogs.getD (logsDirectory home)] else []
  match l.project with
  | none => pure global
  | some project =>
    if l.toProject && (← FileAccess.isPresent (settingsDirectory project)) then
      pure (global ++ [logsDirectory project])
    else pure global

/-- Appends a line to a file in a directory, which is made if need be. -/
def append (directory : Path) (fileName line : String) : m (Except FileError Unit) := do
  match ← FileAccess.makeDirectory directory with
  | .error e => pure (.error e)
  | .ok () => FileAccess.append (directory.child fileName) line

/-- Appends a line in each directory. A write that fails is only counted. -/
def appendAll (l : Logger) (fileName line : String) : List Path → m Logger
  | [] => pure l
  | directory :: rest => do
    match ← append directory fileName line with
    | .ok () => l.appendAll fileName line rest
    | .error _ => l.countFailure.appendAll fileName line rest

/-- Logs an event. -/
def record (l : Logger) (home : Path) (stamp : Stamp) (e : Event) : m Logger := do
  if l.accepts e.level then
    let directories ← l.destinations home
    l.appendAll (Calendar.dateText stamp.instant ++ ".jsonl") (l.line stamp e) directories
  else pure l

end Logger

end StaticPages.Log
