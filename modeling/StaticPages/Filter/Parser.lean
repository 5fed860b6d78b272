import StaticPages.Filter.Argument
import StaticPages.Filter.Basic

namespace StaticPages.Filter

open Token

/-- The values given to the parameters of a filter. Of two values for one
    parameter the first counts. -/
abbrev Bindings := List (String × String)

namespace Name

/-- Assigns labelled arguments to the parameters of a filter, each at most once. -/
def bindLabelled (name : Name) (bound : Bindings) : List Argument → Except Problem Bindings
  | [] => .ok bound
  | ⟨none, _⟩ :: _ => .error (.lateUnlabelled name.toText)
  | ⟨some label, value⟩ :: rest =>
    if name.parameters.contains label then
      if (bound.lookup label).isSome then .error (.repeatedArgument label name.toText)
      else name.bindLabelled (bound ++ [(label, value)]) rest
    else if name.parameters.isEmpty then .error (.takesNoArguments name.toText)
    else .error (.unknownArgument label name.toText name.parameters)

/-- Assigns arguments to the parameters of a filter. An unlabelled value may only
    come first, and gives way to a labelled one. -/
def bindArguments (name : Name) : List Argument → Except Problem Bindings
  | ⟨none, value⟩ :: rest =>
    match name.positional with
    | none => .error (.takesNoArguments name.toText)
    | some parameter =>
      match name.bindLabelled [] rest with
      | .ok bound => .ok (bound ++ [(parameter, value)])
      | .error p => .error p
  | arguments => name.bindLabelled [] arguments

/-- Reads a whole number written in digits. -/
def whole (name : Name) (parameter : String) (maximum : Nat) (given : String) :
    Except Problem Nat :=
  let digits := given.toList
  let value := Decimal.ofDigits digits
  if digits.isEmpty || !digits.all Char.isDigit || maxWhole < value then
    .error (.notWhole parameter name.toText given)
  else if maximum < value then .error (.tooLarge parameter name.toText maximum given)
  else .ok value

/-- The whole number given to a parameter, if any. -/
def whole? (name : Name) (parameter : String) (maximum : Nat) (bound : Bindings) :
    Except Problem (Option Nat) :=
  match bound.lookup parameter with
  | none => .ok none
  | some given => (name.whole parameter maximum given).map some

/-- The filter that a name and values for its parameters stand for. -/
def build (name : Name) (bound : Bindings) : Except Problem Filter :=
  match name with
  | ceil => .ok .ceil
  | floor => .ok .floor
  | round =>
    (name.whole? "precision" maxPrecision bound).map fun given =>
      .round (Decimal.ofNat (given.getD 0))
  | text =>
    match bound.lookup "case" with
    | none => .ok (.text .lower)
    | some given =>
      match TextCase.ofName? given with
      | some textCase => .ok (.text textCase)
      | none => .error (.unknownCase given)
  | lowercase => .ok (.text .lower)
  | uppercase => .ok (.text .upper)
  | markdown => .ok .markdown
  | replace =>
    (name.whole? "limit" maxWhole bound).map fun limit =>
      .replace ((bound.lookup "find").getD "") ((bound.lookup "replacement").getD "") limit
  | reverse => .ok .reverse
  | truncate =>
    (name.whole? "characters" maxWhole bound).map fun given =>
      .truncate (given.getD 100) ((bound.lookup "trail").getD "...")

/-- The filter that a name and arguments stand for. -/
def apply (name : Name) (arguments : List Argument) : Except Problem Filter :=
  match name.bindArguments arguments with
  | .ok bound => name.build bound
  | .error p => .error p

end Name

/-- The arguments after an optional equals sign. -/
def arguments : Parser (List Argument) := fun c =>
  match c.skipBlanks.after? "=" with
  | none => .ok ([], c)
  | some equals => Argument.list equals

/-- One filter: its name, and arguments if an equals sign follows. -/
def parse : Parser Filter := fun c =>
  let start := c.skipBlanks
  match identifier start with
  | .error _ => start.refuse .noFilterName
  | .ok (written, named) =>
    match Name.ofText? written with
    | none => start.refuse (.unknownFilter written)
    | some name =>
      match arguments named with
      | .error f => .error f
      | .ok (given, rest) =>
        match name.apply given with
        | .ok filter => .ok (filter, rest)
        | .error p => start.refuse p

theorem arguments_reaches {c d : Cursor} {given : List Argument}
    (h : arguments c = .ok (given, d)) : c.Reaches d := by
  unfold arguments at h
  split at h
  · cases h
    exact Cursor.Reaches.refl c
  · next equals hequals =>
    exact (Cursor.reaches_skipBlanks c).trans
      ((Cursor.reaches_after? hequals).trans (Argument.list_reaches h))

theorem parse_reaches {c d : Cursor} {filter : Filter} (h : parse c = .ok (filter, d)) :
    c.Reaches d := by
  unfold parse at h
  dsimp only at h
  split at h
  · cases h
  · next written named hnamed =>
    split at h
    · cases h
    · split at h
      · cases h
      · next given rest hgiven =>
        split at h
        · cases h
          exact (Cursor.reaches_skipBlanks c).trans
            ((identifier_reaches hnamed).trans (arguments_reaches hgiven))
        · cases h

/-- Zero or more filters, each after a pipe. White space that no pipe follows is
    left in place. -/
def pipeline (c : Cursor) : Except Failure (List Filter × Cursor) :=
  match _hpipe : c.skipSpace.after? "|" with
  | none => .ok ([], c)
  | some pipe =>
    match _hfilter : parse pipe with
    | .error f => .error f
    | .ok (filter, rest) =>
      match pipeline rest with
      | .ok (others, after) => .ok (filter :: others, after)
      | .error f => .error f
termination_by c.ahead.length
decreasing_by
  have hpipe := Cursor.skipSpace_after?_length_lt (by decide) _hpipe
  have hfilter := (parse_reaches _hfilter).length_le
  omega

theorem pipeline_reaches {c d : Cursor} {found : List Filter}
    (h : pipeline c = .ok (found, d)) : c.Reaches d := by
  fun_induction pipeline c generalizing found with
  | case1 c hpipe =>
    cases h
    exact Cursor.Reaches.refl _
  | case2 => cases h
  | case3 c pipe hpipe filter rest hfilter others after hothers ih =>
    cases h
    exact (Cursor.reaches_skipSpace c).trans ((Cursor.reaches_after? hpipe).trans
      ((parse_reaches hfilter).trans (ih hothers)))
  | case4 => cases h

end StaticPages.Filter
