import StaticPages.Files.Path

namespace StaticPages

/-- Why the file system refuses something. -/
inductive FileProblem where
  | missing
  | isDirectory
  | exists
  | notDirectory
  deriving DecidableEq, Repr

namespace FileProblem

def code : FileProblem → String
  | missing => "ENOENT"
  | isDirectory => "EISDIR"
  | .exists => "EEXIST"
  | notDirectory => "ENOTDIR"

def text : FileProblem → String
  | missing => "no such file or directory"
  | isDirectory => "illegal operation on a directory"
  | .exists => "file already exists"
  | notDirectory => "not a directory"

end FileProblem

/-- What was being done when the file system refused. -/
inductive FileAction where
  | opening
  | reading
  | makingDirectory
  deriving DecidableEq, Repr

def FileAction.text : FileAction → String
  | opening => "open"
  | reading => "read"
  | makingDirectory => "mkdir"

/-- A refusal of the file system, or an error that the system itself reports. -/
inductive FileError where
  | refused (problem : FileProblem) (action : FileAction) (path : Path)
  | reported (code message : String) (path : Option String)
  deriving DecidableEq, Repr

namespace FileError

def code : FileError → String
  | refused problem _ _ => problem.code
  | reported code _ _ => code

/-- The path that the error names. An error while reading names none, for it comes
    from a file that is already open. -/
def path : FileError → Option String
  | refused _ .reading _ => none
  | refused _ _ path => some path.toText
  | reported _ _ path => path

def message : FileError → String
  | reported _ message _ => message
  | e@(refused problem action _) =>
    problem.code ++ ": " ++ problem.text ++ ", " ++ action.text ++
      match e.path with
      | some path => " '" ++ path ++ "'"
      | none => ""

end FileError

/-- What programs do with files. A directory is made together with those above it,
    and may already be there. -/
class FileAccess (m : Type → Type) where
  isPresent : Path → m Bool
  read : Path → m (Except FileError String)
  makeDirectory : Path → m (Except FileError Unit)
  write : Path → String → m (Except FileError Unit)
  append : Path → String → m (Except FileError Unit)

end StaticPages
