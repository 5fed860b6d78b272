import StaticPages.Filter.Basic
import StaticPages.RenderError

namespace StaticPages

/-- What stops a rendering: an error of a document, a template or a value, or
    something that the Markdown renderer in use reports about itself. -/
inductive Fault where
  | render (error : RenderError)
  | foreign (message : String)
  deriving DecidableEq, Repr

/-- Turns Markdown into an HTML fragment. -/
abbrev Renderer := String → Except Fault String

namespace Filter

def refuse {α : Type} (kind : ErrorKind) (cause : Cause) : Except Fault α :=
  .error (.render ⟨kind, cause, none⟩)

/-- The number that a value is, for the filter that asks for one. -/
def number (filter value : String) : Except Fault Positional :=
  match Numeral.ofChars? (Text.trimChars value.toList) with
  | none => refuse .invalidFilterInput (.notANumber filter value)
  | some numeral =>
    if numeral.inRange then .ok numeral.positional
    else refuse .invalidFilterInput (.outOfRange filter value)

/-- The value rounded to so many places, a half away from zero. -/
def roundValue (precision : Decimal) (value : String) : Except Fault String :=
  match precision.toNat? with
  | none => refuse .malformedPlaceholder (.badPrecision maxPrecision precision)
  | some places =>
    if places ≤ maxPrecision then
      (number "round" value).map fun d => Decimal.fixed (d.round places) places
    else refuse .malformedPlaceholder (.badPrecision maxPrecision precision)

/-- `value` with the first `limit` places where `find` stands replaced, as far as there are
    so many. What is put in is not searched. -/
def replaceFirst (find replacement : List Char) : Nat → List Char → List Char
  | 0, value => value
  | limit + 1, value =>
    match Text.cut? find value with
    | none => value
    | some (before, after) => before ++ replacement ++ replaceFirst find replacement limit after

/-- Nothing is replaced when there is nothing to find. Without a limit, the replacement
    joins the pieces between the places where `find` stands. -/
def replaceValue (find replacement : String) (limit : Option Nat) (value : String) : String :=
  if find.isEmpty then value
  else
    String.ofList <| match limit with
      | none => replacement.toList.intercalate (Text.split find.toList value.toList)
      | some limit => replaceFirst find.toList replacement.toList limit value.toList

/-- A value of more characters than allowed is cut there and gets the trail. -/
def truncateValue (characters : Nat) (trail value : String) : String :=
  let cs := value.toList
  if cs.length ≤ characters then value else String.ofList (cs.take characters) ++ trail

/-- The value after one filter. -/
def apply (render : Renderer) (filter : Filter) (value : String) : Except Fault String :=
  match filter with
  | ceil => (number "ceil" value).map fun d => Decimal.fixed (d.toInteger false) 0
  | floor => (number "floor" value).map fun d => Decimal.fixed (d.toInteger true) 0
  | round precision => roundValue precision value
  | text textCase => .ok (Text.convert value textCase)
  | markdown => render value
  | replace find replacement limit => .ok (replaceValue find replacement limit value)
  | reverse => .ok (String.ofList value.toList.reverse)
  | truncate characters trail => .ok (truncateValue characters trail value)

/-- The value after a pipeline, from left to right. -/
def applyAll (render : Renderer) : List Filter → String → Except Fault String
  | [], value => .ok value
  | filter :: rest, value =>
    match filter.apply render value with
    | .ok next => applyAll render rest next
    | .error fault => .error fault

end Filter

end StaticPages
