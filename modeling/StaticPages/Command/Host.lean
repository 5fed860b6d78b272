import StaticPages.Command.Fault
import StaticPages.Log.Logger

namespace StaticPages.Command

/-- Where commands print. -/
class Console (m : Type → Type) where
  print : String → m Unit
  printError : String → m Unit

/-- Where commands report what they do. -/
class Journal (m : Type → Type) where
  disable : m Unit
  enable : m Unit
  configure : Log.Options → m Unit
  record : Log.Event → m Unit

/-- The surroundings of a run. Other places than the usual ones can be given for
    the user's settings and logs. -/
structure Environment where
  home : Path
  directory : Path
  settingsFile : Option Path := none
  globalLogs : Option Path := none
  deriving DecidableEq, Repr

/-- The file that holds the settings of a project or a user. -/
def settingsFile (p : Path) : Path :=
  (Log.settingsDirectory p).child "config.json"

/-- A command works in any monad that gives it what it needs, and may stop. -/
abbrev Action (m : Type → Type) (α : Type) := ExceptT Fault m α

section

variable {m : Type → Type} [Monad m]

def stop {α : Type} (fault : Fault) : Action m α :=
  throw fault

def isPresent [FileAccess m] (p : Path) : Action m Bool :=
  ExceptT.lift (FileAccess.isPresent p)

/-- Goes on with a file operation's result, or stops at its error. -/
def attempt {α : Type} (operation : m (Except FileError α)) : Action m α :=
  ExceptT.mk do
    match ← operation with
    | .ok value => pure (.ok value)
    | .error e => pure (.error (.file e))

def readText [FileAccess m] (p : Path) : Action m String :=
  attempt (FileAccess.read p)

/-- Writes a file, in a directory that is made if need be. -/
def writeText [FileAccess m] (p : Path) (text : String) : Action m Unit := do
  attempt (FileAccess.makeDirectory p.parent)
  attempt (FileAccess.write p text)

def print [Console m] (text : String) : Action m Unit :=
  ExceptT.lift (Console.print text)

/-- Prints a message, as a JSON string if JSON is asked for. -/
def printMessage [Console m] (json : Bool) (text : String) : Action m Unit :=
  print ((if json then Json.quote text else text) ++ "\n")

def printJson [Console m] (value : Json) : Action m Unit :=
  print (value.pretty ++ "\n")

def record [Journal m] (e : Log.Event) : Action m Unit :=
  ExceptT.lift (Journal.record e)

end

end StaticPages.Command
