import StaticPages.Text.Space

namespace StaticPages

/-- What is known of a flag: that it was given without a value, that it is turned
    off, or the values it was given. -/
inductive FlagValue where
  | present
  | off
  | one (value : String)
  | many (values : List String)
  deriving DecidableEq, Repr

/-- The flags of a command line, each name once. -/
abbrev Flags := List (String × FlagValue)

namespace Flags

/-- Names that are taken from the start. Flags of these names are dropped. -/
def reserved : List String :=
  ["constructor", "hasOwnProperty", "isPrototypeOf", "propertyIsEnumerable", "toLocaleString",
    "toString", "valueOf", "__defineGetter__", "__defineSetter__", "__lookupGetter__",
    "__lookupSetter__", "__proto__"]

def set (flags : Flags) (name : String) (value : FlagValue) : Flags :=
  match flags with
  | [] => [(name, value)]
  | (other, old) :: rest =>
    if other == name then (name, value) :: rest else (other, old) :: set rest name value

/-- What a flag holds after one more occurrence. Values are collected; an
    occurrence without a value adds nothing, and one that came first stays. -/
def join (old : FlagValue) (value : Option String) : FlagValue :=
  match old, value with
  | .one first, some next => .many [first, next]
  | .many values, some next => .many (values ++ [next])
  | old, _ => old

/-- Notes one occurrence of a flag. -/
def add (flags : Flags) (name : String) (value : Option String) : Flags :=
  if reserved.contains name then flags
  else
    match flags.lookup name with
    | some old => flags.set name (join old value)
    | none =>
      flags.set name <|
        match value with
        | some text => .one text
        | none => .present

/-- The first value of a flag. -/
def first? (flags : Flags) (name : String) : Option String :=
  match flags.lookup name with
  | some (.one value) => some value
  | some (.many values) => values.head?
  | _ => none

/-- All values of a flag. -/
def values (flags : Flags) (name : String) : List String :=
  match flags.lookup name with
  | some (.one value) => [value]
  | some (.many values) => values
  | _ => []

/-- Whether a flag is given, with a value or without. -/
def has (flags : Flags) (name : String) : Bool :=
  match flags.lookup name with
  | some .present => true
  | some (.one _) => true
  | some (.many values) => !values.isEmpty
  | _ => false

end Flags

/-- A command line in its parts. -/
structure Arguments where
  positional : List String
  flags : Flags
  deriving DecidableEq, Repr

namespace Arguments

/-- What the tokens of a command line say one after the other. -/
inductive Item where
  | positional (text : String)
  | flag (name : String) (value : Option String)
  deriving DecidableEq, Repr

/-- A token by its form. -/
inductive Form where
  | ignored
  | positional (text : String)
  | short (name : String)
  | long (name : String) (value : Option String)
  deriving DecidableEq, Repr

/-- A long flag without its dashes: the name up to an equals sign, and the value
    between that one and the next. A flag without a name is ignored. -/
def longForm (body : List Char) : Form :=
  let name := Text.trimChars (body.takeWhile (· != '='))
  if name.isEmpty then .ignored
  else
    match body.dropWhile (· != '=') with
    | [] => .long (String.ofList name) none
    | _ :: rest => .long (String.ofList name) (some (String.ofList (rest.takeWhile (· != '='))))

def form (token : String) : Form :=
  match token.toList with
  | [] => .ignored
  | '-' :: '-' :: body => longForm body
  | '-' :: c :: rest => .short (String.ofList (c :: rest))
  | _ => .positional token

/-- Whether a token can be the value of the flag before it. -/
def isValue (token : String) : Bool :=
  token.toList.head?.any (· != '-')

/-- The items of a command line. A long flag takes the next token as its value,
    unless it is one of `switches`. -/
def items (switches : List String) : List String → List Item
  | [] => []
  | token :: rest =>
    match form token with
    | .ignored => items switches rest
    | .positional text => .positional text :: items switches rest
    | .short name => .flag name none :: items switches rest
    | .long name (some value) => .flag name (some value) :: items switches rest
    | .long name none =>
      match rest with
      | [] => [.flag name none]
      | next :: later =>
        if !switches.contains name && isValue next then
          .flag name (some next) :: items switches later
        else .flag name none :: items switches (next :: later)

def note (parsed : Arguments) : Item → Arguments
  | .positional text => { parsed with positional := parsed.positional ++ [text] }
  | .flag name value => { parsed with flags := parsed.flags.add name value }

/-- Reads a command line. -/
def parse (switches : List String) (tokens : List String) : Arguments :=
  (items switches tokens).foldl note ⟨[], []⟩

end Arguments

end StaticPages
