import StaticPages.Markdown.Entity
import StaticPages.Text.Case
import StaticPages.Url.Basic

namespace StaticPages.Markdown

/-- Where a link leads, as it is written into a page, with its title. -/
structure Target where
  url : List Char
  title : List Char
  deriving DecidableEq, Repr

/-- A target that links can refer to by a label. -/
structure Definition where
  label : List Char
  target : Target
  deriving DecidableEq, Repr

namespace Definition

/-- Runs of white space as one space each. -/
def squeeze : List Char → List Char
  | [] => []
  | c :: rest =>
    if Text.isSpace c then
      if rest.head?.any Text.isSpace then squeeze rest else ' ' :: squeeze rest
    else c :: squeeze rest

/-- A label in the form in which labels are compared: case and white space do not
    matter. -/
def key (label : List Char) : List Char :=
  Text.upper (Text.lower (squeeze (Text.trimChars label)))

end Definition

namespace Target

def skipGap (text : List Char) : List Char :=
  text.dropWhile fun c => Text.isBlank c || c == '\n'

/-- An address up to the closing `>`, and what follows it. -/
def enclosed? : List Char → Option (List Char × List Char)
  | [] => none
  | '\n' :: _ => none
  | '<' :: _ => none
  | '>' :: rest => some ([], rest)
  | '\\' :: c :: rest => (enclosed? rest).map fun (inside, after) => ('\\' :: c :: inside, after)
  | c :: rest => (enclosed? rest).map fun (inside, after) => (c :: inside, after)

/-- An address without brackets, and what follows it. It ends at a space, a control
    character, or a parenthesis that it does not open. -/
def bare? (depth : Nat) : List Char → Option (List Char × List Char)
  | [] => if depth = 0 then some ([], []) else none
  | '\\' :: c :: rest =>
    if c == ' ' then if depth = 0 then some ([], '\\' :: c :: rest) else none
    else (bare? depth rest).map fun (inside, after) => ('\\' :: c :: inside, after)
  | c :: rest =>
    if c.toNat ≤ 0x20 || c.toNat == 0x7F || (c == ')' && depth = 0) then
      if depth = 0 then some ([], c :: rest) else none
    else if c == '(' && 32 ≤ depth then none
    else
      let inner := if c == '(' then depth + 1 else if c == ')' then depth - 1 else depth
      (bare? inner rest).map fun (inside, after) => (c :: inside, after)

/-- The address at the start of a text, and what follows it. -/
def address? (text : List Char) : Option (List Char × List Char) := do
  match text with
  | '<' :: rest =>
    let (inside, after) ← enclosed? rest
    pure (Entity.unescape 0 inside, after)
  | _ =>
    let (inside, after) ← bare? 0 text
    if inside.isEmpty then none else pure (Entity.unescape 0 inside, after)

/-- A title up to its closing mark, and what follows it. -/
def untilMark? (mark : Char) : List Char → Option (List Char × List Char)
  | [] => none
  | '\\' :: c :: rest =>
    (untilMark? mark rest).map fun (inside, after) => ('\\' :: c :: inside, after)
  | c :: rest =>
    if c == mark then some ([], rest)
    else if c == '(' && mark == ')' then none
    else (untilMark? mark rest).map fun (inside, after) => (c :: inside, after)

/-- The title at the start of a text, in quotes or parentheses, and what follows it. -/
def title? (text : List Char) : Option (List Char × List Char) := do
  let (inside, after) ←
    match text with
    | '"' :: rest => untilMark? '"' rest
    | '\'' :: rest => untilMark? '\'' rest
    | '(' :: rest => untilMark? ')' rest
    | _ => none
  pure (Entity.unescape 0 inside, after)

/-- What is found in the parentheses after the text of a link. -/
inductive Reading where
  | found (target : Target) (rest : List Char)
  | stopped (rest : List Char)
  | ended
  deriving Repr

/-- Reads a target up to its closing parenthesis. An address that no link may lead
    to is none. -/
def read (text : List Char) : Reading :=
  let text := skipGap text
  if text.isEmpty then .ended
  else
    let (target, rest) : Target × List Char :=
      match address? text with
      | none => (⟨[], []⟩, text)
      | some (address, after) =>
        let url := Url.normalize address
        if !Url.isSafe url then (⟨[], []⟩, text)
        else
          let next := skipGap after
          match if next.length < after.length then title? next else none with
          | some (title, left) => (⟨url, title⟩, skipGap left)
          | none => (⟨url, []⟩, next)
    match rest with
    | ')' :: left => .found target left
    | _ => .stopped rest

end Target

/-- The target of the first definition with a label. -/
def lookup? (definitions : List Definition) (label : List Char) : Option Target :=
  (definitions.find? fun d => d.label == Definition.key label).map (·.target)

end StaticPages.Markdown
