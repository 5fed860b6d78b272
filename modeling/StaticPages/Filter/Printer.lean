import StaticPages.Filter.Basic
import StaticPages.Json.Printer

namespace StaticPages.Filter

/-- Whether a value reads back without quotes: it is not empty, it has no white
    space at its ends, and nothing in it ends a bare value or begins a quoted one. -/
def isBare (value : String) : Bool :=
  let cs := value.toList
  !cs.isEmpty && Text.trimChars cs == cs &&
    cs.all fun c => c != ',' && c != '|' && c != '"' && c != '\x7d' && c != '\n'

/-- A value as an argument: bare if it can be, otherwise as a JSON string. -/
def quote (value : String) : String :=
  if isBare value then value else Json.quote value

/-- The filter in the syntax of templates, with every argument labelled. -/
def print : Filter → String
  | ceil => "ceil"
  | floor => "floor"
  | round precision => "round = precision: " ++ precision.toText
  | text textCase => "text = case: " ++ textCase.name
  | markdown => "markdown"
  | replace find replacement limit =>
    "replace = find: " ++ quote find ++ ", replacement: " ++ quote replacement ++
      match limit with
      | none => ""
      | some n => ", limit: " ++ Nat.repr n
  | reverse => "reverse"
  | truncate characters trail =>
    "truncate = characters: " ++ Nat.repr characters ++ ", trail: " ++ quote trail

end StaticPages.Filter
