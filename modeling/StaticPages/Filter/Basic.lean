import StaticPages.Decimal
import StaticPages.Text.Conversion

namespace StaticPages

/-- The closed set of filters. A pipeline asks for a whole precision; a filter
    that is made otherwise may ask for any number and is then refused on use. -/
inductive Filter where
  | ceil
  | floor
  | round (precision : Decimal)
  | text (textCase : TextCase)
  | markdown
  | replace (find replacement : String) (limit : Option Nat)
  | reverse
  | truncate (characters : Nat) (trail : String)
  deriving DecidableEq, Repr

namespace Filter

/-- The names under which templates ask for filters. Two of them are short for a
    filter with an argument. -/
inductive Name where
  | ceil
  | floor
  | round
  | text
  | lowercase
  | uppercase
  | markdown
  | replace
  | reverse
  | truncate
  deriving DecidableEq, Repr

namespace Name

def all : List Name :=
  [ceil, floor, round, text, lowercase, uppercase, markdown, replace, reverse, truncate]

def toText : Name → String
  | ceil => "ceil"
  | floor => "floor"
  | round => "round"
  | text => "text"
  | lowercase => "lowercase"
  | uppercase => "uppercase"
  | markdown => "markdown"
  | replace => "replace"
  | reverse => "reverse"
  | truncate => "truncate"

/-- The letters of a name may be of either case. -/
def ofText? (given : String) : Option Name :=
  let key := given.toList.map Char.toLower
  all.find? fun n => n.toText.toList == key

/-- The parameters of a filter. -/
def parameters : Name → List String
  | round => ["precision"]
  | text => ["case"]
  | replace => ["find", "replacement", "limit"]
  | truncate => ["characters", "trail"]
  | _ => []

/-- The parameter that an unlabelled value goes to. -/
def positional : Name → Option String
  | round => some "precision"
  | text => some "case"
  | replace => some "find"
  | truncate => some "characters"
  | _ => none

end Name

/-- The largest precision of `round`. -/
def maxPrecision : Nat := 100

/-- The largest whole number that an argument can be: below it every whole number
    is a binary64 number. -/
def maxWhole : Nat := 9007199254740991

end Filter

end StaticPages
