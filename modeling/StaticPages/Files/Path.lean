namespace StaticPages

/-- An absolute path: the names from the root on. -/
structure Path where
  names : List String
  deriving DecidableEq, Repr

namespace Path

def root : Path := ⟨[]⟩

def toText (p : Path) : String :=
  "/" ++ "/".intercalate p.names

def child (p : Path) (name : String) : Path :=
  ⟨p.names ++ [name]⟩

/-- The directory that holds a path. The root holds itself. -/
def parent (p : Path) : Path :=
  ⟨p.names.dropLast⟩

/-- The pieces of a text between slashes. -/
def pieces : List Char → List (List Char)
  | [] => [[]]
  | '/' :: rest => [] :: pieces rest
  | c :: rest =>
    match pieces rest with
    | [] => [[c]]
    | piece :: others => (c :: piece) :: others

/-- Follows one piece of a path: `..` goes up, an empty piece and `.` stay. -/
def follow (names : List String) (piece : String) : List String :=
  if piece == "" || piece == "." then names
  else if piece == ".." then names.dropLast
  else names ++ [piece]

/-- The path that a text means when it is read in the directory `base`. -/
def resolve (base : Path) (text : String) : Path :=
  let cs := text.toList
  let start := if cs.head? = some '/' then [] else base.names
  ⟨((pieces cs).map String.ofList).foldl follow start⟩

/-- Every name leads further down. -/
def IsNormal (p : Path) : Prop :=
  ∀ name ∈ p.names, name ≠ "" ∧ name ≠ "." ∧ name ≠ ".."

theorem isNormal_follow {names : List String} (piece : String) (hnames : IsNormal ⟨names⟩) :
    IsNormal ⟨follow names piece⟩ := by
  intro name hmem
  unfold follow at hmem
  split at hmem
  · exact hnames name hmem
  · next hstay =>
    split at hmem
    · exact hnames name ((List.dropLast_sublist names).mem hmem)
    · next hup =>
      rcases List.mem_append.mp hmem with hold | hnew
      · exact hnames name hold
      · have heq : name = piece := by simpa using hnew
        subst heq
        simp only [Bool.or_eq_true, beq_iff_eq, not_or] at hstay hup
        exact ⟨hstay.1, hstay.2, hup⟩

/-- Whatever a text says, the path that it means is in normal form. -/
theorem isNormal_resolve {base : Path} (text : String) (hbase : base.IsNormal) :
    (base.resolve text).IsNormal := by
  have hfold : ∀ (steps names : List String), IsNormal ⟨names⟩ →
      IsNormal ⟨steps.foldl follow names⟩ := by
    intro steps
    induction steps with
    | nil => intro names hnames; exact hnames
    | cons step rest ih => intro names hnames; exact ih _ (isNormal_follow step hnames)
  unfold resolve
  apply hfold
  split
  · intro name hmem
    cases hmem
  · exact hbase

/-- The paths above a path whose names are given from the last to the first. -/
def above : List String → List Path
  | [] => []
  | _ :: rest => ⟨rest.reverse⟩ :: above rest

/-- The path itself and every path above it, up to the root. -/
def upwards (p : Path) : List Path :=
  p :: above p.names.reverse

/-- How to go from one list of names to another: up to where they part, then down. -/
def route : List String → List String → List String
  | [], target => target
  | source, [] => source.map fun _ => ".."
  | s :: source, t :: target =>
    if s = t then route source target
    else ((s :: source).map fun _ => "..") ++ t :: target

/-- The path as it is written in the directory `base`. -/
def relativeTo (p base : Path) : String :=
  "/".intercalate (route base.names p.names)

/-- The last name in the text of a path. -/
def baseName (text : String) : String :=
  match ((pieces text.toList).filter fun piece => !piece.isEmpty).getLast? with
  | some piece => String.ofList piece
  | none => ""

/-- A file name without its extension: what stands before its last dot. A name
    that only begins with a dot, and `..`, have no extension. -/
def stem (name : String) : String :=
  let cs := name.toList
  let before := ((cs.reverse.dropWhile (· != '.')).drop 1).reverse
  if before.isEmpty || name == ".." then name else String.ofList before

end Path

end StaticPages
