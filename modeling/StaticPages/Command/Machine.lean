import StaticPages.Command.Run
import StaticPages.Files.System

namespace StaticPages.Command

/-- A machine held as a value: what commands see of it and change in it. All
    entries of a run carry one stamp. -/
structure Machine where
  home : Path
  files : FileSystem
  logger : Log.Logger
  stamp : Log.Stamp
  stdout : String := ""
  stderr : String := ""

namespace Machine

/-- Carries a file operation over to a machine. -/
def onFiles {α : Type} (operation : StateM FileSystem α) : StateM Machine α := fun machine =>
  let (value, files) := operation machine.files
  (value, { machine with files })

instance : FileAccess (StateM Machine) where
  isPresent p := onFiles (FileAccess.isPresent p)
  read p := onFiles (FileAccess.read p)
  makeDirectory p := onFiles (FileAccess.makeDirectory p)
  write p text := onFiles (FileAccess.write p text)
  append p text := onFiles (FileAccess.append p text)

instance : Console (StateM Machine) where
  print text := modify fun machine => { machine with stdout := machine.stdout ++ text }
  printError text := modify fun machine => { machine with stderr := machine.stderr ++ text }

/-- Changes the logger. -/
def onLogger (change : Log.Logger → Log.Logger) : StateM Machine Unit :=
  modify fun machine => { machine with logger := change machine.logger }

/-- Logs an event. -/
def log (e : Log.Event) : StateM Machine Unit := do
  let machine ← get
  let logger ← onFiles (machine.logger.record machine.home machine.stamp e)
  onLogger fun _ => logger

instance : Journal (StateM Machine) where
  disable := onLogger Log.Logger.disable
  enable := onLogger Log.Logger.enable
  configure options := onLogger fun logger => logger.configure options
  record := log

end Machine

end StaticPages.Command
