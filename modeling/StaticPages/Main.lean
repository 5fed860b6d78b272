import StaticPages.Command.Run
import Std.Time.DateTime.Timestamp

namespace StaticPages.Program

open Command (Action Console Journal Environment)

/-- A running program keeps its logger and works on the machine it runs on. -/
abbrev Process := StateT Log.Logger IO

/-- The symbols of the more frequent error numbers. -/
def errorSymbols : List (UInt32 × String) :=
  [(1, "EPERM"), (2, "ENOENT"), (5, "EIO"), (12, "ENOMEM"), (13, "EACCES"), (16, "EBUSY"),
    (17, "EEXIST"), (18, "EXDEV"), (20, "ENOTDIR"), (21, "EISDIR"), (22, "EINVAL"),
    (23, "ENFILE"), (24, "EMFILE"), (27, "EFBIG"), (28, "ENOSPC"), (30, "EROFS"),
    (36, "ENAMETOOLONG"), (40, "ELOOP"), (122, "EDQUOT")]

/-- The number and the text of an error of the system. -/
def errorParts : IO.Error → UInt32 × String
  | .alreadyExists _ number text => (number, text)
  | .otherError number text => (number, text)
  | .resourceBusy number text => (number, text)
  | .resourceVanished number text => (number, text)
  | .unsupportedOperation number text => (number, text)
  | .hardwareFault number text => (number, text)
  | .unsatisfiedConstraints number text => (number, text)
  | .illegalOperation number text => (number, text)
  | .protocolError number text => (number, text)
  | .timeExpired number text => (number, text)
  | .interrupted _ number text => (number, text)
  | .noFileOrDirectory _ number text => (number, text)
  | .invalidArgument _ number text => (number, text)
  | .permissionDenied _ number text => (number, text)
  | .resourceExhausted _ number text => (number, text)
  | .inappropriateType _ number text => (number, text)
  | .noSuchThing _ number text => (number, text)
  | .unexpectedEof => (5, "end of file")
  | .userError text => (5, text)

/-- An error of the system while something was done with a path. -/
def systemError (action : FileAction) (p : Path) (e : IO.Error) : FileError :=
  let (number, text) := errorParts e
  let code := (errorSymbols.lookup number).getD "EIO"
  .reported code (code ++ ": " ++ text ++ ", " ++ action.text ++ " '" ++ p.toText ++ "'")
    (some p.toText)

/-- The place of a path on the machine. -/
def located (p : Path) := do
  let here ← IO.currentDir
  pure (here / p.toText)

def isPresent (p : Path) : IO Bool := do
  let place ← located p
  place.pathExists

def isDirectory (p : Path) : IO Bool := do
  let place ← located p
  place.isDir

/-- Whether a file stands where a path needs a directory. -/
def isBlocked (p : Path) : IO Bool :=
  p.parent.upwards.anyM fun above => do
    return (← isPresent above) && !(← isDirectory above)

/-- Does something with a path, and gives the error of the system as a value. -/
def guarded {α : Type} (action : FileAction) (p : Path) (operation : IO α) :
    IO (Except FileError α) := do
  try
    return .ok (← operation)
  catch e =>
    return .error (systemError action p e)

/-- The problem with a path that leads to nothing. -/
def absence (p : Path) : IO FileProblem := do
  return if ← isBlocked p then .notDirectory else .missing

def read (p : Path) : IO (Except FileError String) := do
  if ← isDirectory p then return .error (.refused .isDirectory .reading p)
  else if ← isPresent p then
    guarded .opening p do
      IO.FS.readFile (← located p)
  else return .error (.refused (← absence p) .opening p)

def makeDirectory (p : Path) : IO (Except FileError Unit) := do
  if ← isDirectory p then return .ok ()
  else if ← isPresent p then return .error (.refused .exists .makingDirectory p)
  else if ← isBlocked p then return .error (.refused .notDirectory .makingDirectory p)
  else
    guarded .makingDirectory p do
      IO.FS.createDirAll (← located p)

/-- Puts a text into a file, at its end or in place of all of it. -/
def put (mode : IO.FS.Mode) (p : Path) (text : String) : IO (Except FileError Unit) := do
  if ← isDirectory p then return .error (.refused .isDirectory .opening p)
  else if ← isDirectory p.parent then
    guarded .opening p do
      let handle ← IO.FS.Handle.mk (← located p) mode
      handle.putStr text
  else return .error (.refused (← absence p) .opening p)

instance : FileAccess Process where
  isPresent p := StateT.lift (isPresent p)
  read p := StateT.lift (read p)
  makeDirectory p := StateT.lift (makeDirectory p)
  write p text := StateT.lift (put .write p text)
  append p text := StateT.lift (put .append p text)

instance : Console Process where
  print text := StateT.lift (IO.print text)
  printError text := StateT.lift (IO.eprint text)

/-- A random identifier: thirty-two hexadecimal digits in groups. -/
def freshId : IO String := do
  let bytes ← IO.getRandomBytes 16
  let digits := bytes.toList.flatMap fun byte =>
    let digits := Nat.toDigits 16 byte.toNat
    List.replicate (2 - digits.length) '0' ++ digits
  let group (start count : Nat) := String.ofList ((digits.drop start).take count)
  return "-".intercalate [group 0 8, group 8 4, group 12 4, group 16 4, group 20 12]

def freshStamp : IO Log.Stamp := do
  let now ← Std.Time.Timestamp.now
  return ⟨← freshId, now.toMillisecondsSinceUnixEpoch.toInt⟩

/-- The directory of the user. -/
def homeDirectory : IO Path := do
  return Path.root.resolve ((← IO.getEnv "HOME").getD "/")

instance : Journal Process where
  disable := modify Log.Logger.disable
  enable := modify Log.Logger.enable
  configure options := modify fun logger => logger.configure options
  record e := do
    let logger ← get
    let after ← logger.record (← homeDirectory) (← freshStamp) e
    set after

end StaticPages.Program

open StaticPages in
/-- Runs the command line that the program was started with. -/
def main (tokens : List String) : IO UInt32 := do
  let home ← Program.homeDirectory
  let directory := Path.root.resolve (← IO.currentDir).toString
  let logger : Log.Logger := { session := ← Program.freshId }
  let program : Program.Process Int := Command.execute { home, directory } tokens
  let (code, _) ← program.run logger
  return code.toNat.toUInt32
