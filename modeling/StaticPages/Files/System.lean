import StaticPages.Files.Access

namespace StaticPages

/-- What a path can lead to. -/
inductive Node where
  | directory
  | file (text : String)
  deriving DecidableEq, Repr

/-- A file system held as a value: the node at each path but the root, which is
    always a directory. -/
structure FileSystem where
  nodes : List (Path × Node)
  deriving DecidableEq, Repr

namespace FileSystem

def empty : FileSystem := ⟨[]⟩

def node? (fs : FileSystem) (p : Path) : Option Node :=
  if p = Path.root then some .directory else fs.nodes.lookup p

def putNode (nodes : List (Path × Node)) (p : Path) (node : Node) : List (Path × Node) :=
  match nodes with
  | [] => [(p, node)]
  | (other, old) :: rest =>
    if other = p then (p, node) :: rest else (other, old) :: putNode rest p node

def put (fs : FileSystem) (p : Path) (node : Node) : FileSystem :=
  ⟨putNode fs.nodes p node⟩

def isPresent (fs : FileSystem) (p : Path) : Bool :=
  (fs.node? p).isSome

def isFile (fs : FileSystem) (p : Path) : Bool :=
  match fs.node? p with
  | some (.file _) => true
  | _ => false

/-- Whether the way to a path is blocked by a file. -/
def isBlocked (fs : FileSystem) (p : Path) : Bool :=
  p.parent.upwards.any fs.isFile

/-- The problem with a path that leads to nothing. -/
def absence (fs : FileSystem) (p : Path) : FileProblem :=
  if fs.isBlocked p then .notDirectory else .missing

def read (fs : FileSystem) (p : Path) : Except FileError String :=
  match fs.node? p with
  | some (.file text) => .ok text
  | some .directory => .error (.refused .isDirectory .reading p)
  | none => .error (.refused (fs.absence p) .opening p)

/-- Puts a directory where nothing is yet. -/
def addDirectory (fs : FileSystem) (p : Path) : FileSystem :=
  if fs.isPresent p then fs else fs.put p .directory

def makeDirectory (fs : FileSystem) (p : Path) : Except FileError FileSystem :=
  if fs.isFile p then .error (.refused .exists .makingDirectory p)
  else if fs.isBlocked p then .error (.refused .notDirectory .makingDirectory p)
  else .ok (p.upwards.foldr (fun path fs => fs.addDirectory path) fs)

/-- Puts a text computed from the old one at a path. -/
def update (fs : FileSystem) (p : Path) (text : String → String) : Except FileError FileSystem :=
  match fs.node? p with
  | some .directory => .error (.refused .isDirectory .opening p)
  | some (.file old) => .ok (fs.put p (.file (text old)))
  | none =>
    if fs.node? p.parent = some .directory then .ok (fs.put p (.file (text "")))
    else .error (.refused (fs.absence p) .opening p)

def write (fs : FileSystem) (p : Path) (text : String) : Except FileError FileSystem :=
  fs.update p fun _ => text

def append (fs : FileSystem) (p : Path) (text : String) : Except FileError FileSystem :=
  fs.update p fun old => old ++ text

/-- Keeps the file system as it is when a change is refused. -/
def commit (change : FileSystem → Except FileError FileSystem) :
    StateM FileSystem (Except FileError Unit) := fun fs =>
  match change fs with
  | .ok changed => (.ok (), changed)
  | .error e => (.error e, fs)

instance : FileAccess (StateM FileSystem) where
  isPresent p := fun fs => (fs.isPresent p, fs)
  read p := fun fs => (fs.read p, fs)
  makeDirectory p := commit fun fs => fs.makeDirectory p
  write p text := commit fun fs => fs.write p text
  append p text := commit fun fs => fs.append p text

end FileSystem

end StaticPages
