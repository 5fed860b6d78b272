import StaticPages.Document.Basic

namespace StaticPages

/-- Which side wins where the metadata declares a title or a content of its own. -/
inductive Precedence where
  | metadata
  | derived
  deriving DecidableEq, Repr

namespace Precedence

def all : List Precedence := [metadata, derived]

def name : Precedence → String
  | metadata => "metadata"
  | derived => "derived"

def ofName? (name : String) : Option Precedence :=
  all.find? fun p => p.name == name

end Precedence

/-- A table of values by name. Each name stands in it once. -/
abbrev Variables := List (String × String)

namespace Variables

/-- Sets the value of a name, in its place if the name is already there. -/
def set (table : Variables) (name value : String) : Variables :=
  match table with
  | [] => [(name, value)]
  | (other, old) :: rest =>
    if other == name then (name, value) :: rest else (other, old) :: set rest name value

def setAll (table : Variables) (bindings : List (String × String)) : Variables :=
  bindings.foldl (fun table (name, value) => table.set name value) table

def get? (table : Variables) (name : String) : Option String :=
  table.lookup name

/-- The table in the order of its names. -/
def sorted (table : Variables) : Variables :=
  table.mergeSort fun a b => !Text.unitsBefore b.1 a.1

theorem get?_set (table : Variables) (name value other : String) :
    (table.set name value).get? other = if other = name then some value else table.get? other := by
  induction table with
  | nil =>
    by_cases h : other = name <;> simp [set, get?, h]
  | cons head rest ih =>
    obtain ⟨key, old⟩ := head
    simp only [get?] at ih ⊢
    by_cases hkey : key = name
    · subst hkey
      by_cases h : other = key
      · simp [set, h]
      · have hne : (other == key) = false := by simpa using h
        simp [set, List.lookup_cons, h, hne]
    · by_cases h : other = key
      · subst h
        simp [set, hkey]
      · have hne : (other == key) = false := by simpa using h
        simp [set, hkey, List.lookup_cons, hne, ih]

end Variables

namespace Document

/-- The values that the text itself gives: its title, if a heading was found, and
    its body as content. -/
def derivedBindings (d : Document) : List (String × String) :=
  match d.title with
  | some title => [("title", title), ("content", d.body)]
  | none => [("content", d.body)]

def metadataBindings (d : Document) : List (String × String) :=
  d.metadata.map fun e => (e.key, e.value)

/-- The variables of a document. Of two entries with one key the later counts. -/
def table (d : Document) (precedence : Precedence) : Variables :=
  match precedence with
  | .metadata => (Variables.setAll [] d.derivedBindings).setAll d.metadataBindings
  | .derived => (Variables.setAll [] d.metadataBindings).setAll d.derivedBindings

end Document

end StaticPages
