import StaticPages.Markdown.Opening
import StaticPages.Markdown.Target

namespace StaticPages.Markdown

/-- How the cells of a column are aligned. -/
inductive Alignment where
  | none
  | left
  | center
  | right
  deriving DecidableEq, Repr

/-- A block, with running text as it is written. Code has the words after its
    fence, if it has one. A list has the number of its first item, if it has
    numbers. -/
inductive Block where
  | heading (level : Nat) (text : List Char)
  | paragraph (text : List Char)
  | rule
  | code (info : Option (List Char)) (text : List Char)
  | html (text : List Char)
  | table (columns : List Alignment) (head : List (List Char)) (rows : List (List (List Char)))
  | quote (content : List Block)
  | list (start : Option Nat) (tight : Bool) (items : List (List Block))
  deriving Repr

namespace Block

/-- The block that lines are read for: the column where its content begins, the
    column where the list around it begins, if it is an item, and the number of
    elements that it stands in. -/
structure Frame where
  column : Nat := 0
  list : Option Nat := none
  level : Nat := 0
  deriving DecidableEq, Repr

/-- Blocks that stand in more elements are not read. -/
def maxLevel : Nat := 100

/-- What a line may put an end to. -/
inductive Unfinished where
  | paragraph
  | definition
  | quote
  | list
  deriving DecidableEq, Repr

/-- Lines that are indented this far hold code. -/
def Frame.isCode (frame : Frame) (line : Line) : Bool :=
  frame.column + 4 ≤ line.column

/-- Whether a line stays inside the block. -/
def Frame.holds (frame : Frame) (line : Line) : Bool :=
  frame.column ≤ line.column

/-- The marker of the item that a line begins. A line that is indented too far for
    its list continues a paragraph. -/
def Frame.marker? (frame : Frame) (line : Line) : Option Marker :=
  if frame.isCode line ||
      (frame.list.any fun column => column + 4 ≤ line.column && !frame.holds line) then none
  else Opening.marker? line.text

/-- The cells of a row. A bar after a backslash does not end a cell. -/
def cells (held : List Char) : List Char → List (List Char)
  | [] => [held.reverse]
  | '\\' :: '|' :: rest => cells ('|' :: held) rest
  | '|' :: rest => held.reverse :: cells [] rest
  | c :: rest => cells (c :: held) rest

/-- The cells of a row that may begin and end with a bar. -/
def row (text : List Char) : List (List Char) :=
  let cells := cells [] (trimEdges text)
  let cells := if cells.head? == some [] then cells.drop 1 else cells
  if cells.getLast? == some [] then cells.dropLast else cells

/-- The alignment that a cell under the head of a table gives. -/
def alignment? (cell : List Char) : Option Alignment :=
  let left := cell.head? == some ':'
  let right := 1 < cell.length && cell.getLast? == some ':'
  let line := if left then cell.drop 1 else cell
  let line := if right then line.dropLast else line
  if line.isEmpty || !line.all (· == '-') then Option.none
  else if left && right then some .center
  else if right then some .right
  else if left then some .left
  else some .none

/-- The columns of a table, as the line under its head gives them. -/
def columns? (text : List Char) : Option (List Alignment) :=
  let isBar (c : Char) := c == '|' || c == '-' || c == ':'
  match text with
  | a :: b :: rest =>
    if !isBar a || !(isBar b || (a != '-' && Text.isBlank b)) ||
        !(rest.all fun c => isBar c || Text.isBlank c) then Option.none
    else
      let cells := (Url.split '|' text).map trimEdges
      let cells := if cells.head? == some [] then cells.drop 1 else cells
      let cells := if cells.getLast? == some [] then cells.dropLast else cells
      cells.mapM alignment?
  | _ => Option.none

/-- The columns and the head of the table that begins with some lines. -/
def table? (frame : Frame) : List Line → Option (List Alignment × List (List Char))
  | first :: second :: _ =>
    if frame.isCode first || frame.isCode second || !frame.holds second then Option.none
    else
      let head := row first.text
      match columns? second.text with
      | some columns =>
        if first.text.contains '|' && !head.isEmpty && head.length == columns.length then
          some (columns, head.map trimEdges)
        else Option.none
      | Option.none => Option.none
  | _ => Option.none

/-- Whether an item may begin here. After a paragraph, only one with text does, and
    only the number one begins a list. -/
def interruptsAsItem (frame : Frame) (unfinished : Unfinished) (line : Line) : Bool :=
  (frame.marker? line).any fun marker =>
    !(unfinished == .paragraph && frame.holds line) ||
      (marker.number.all (· == 1) && !(line.text.drop marker.length).all Text.isBlank)

/-- Whether the first of some lines puts an end to what is unfinished. -/
def interrupts (options : Options) (frame : Frame) (unfinished : Unfinished) :
    List Line → Bool
  | [] => false
  | line :: rest =>
    let common := !frame.isCode line &&
      ((Opening.fence? line.text).isSome || line.text.head? == some '>' || Opening.isRule line.text)
    let more := !frame.isCode line &&
      ((options.html && (Opening.html? line.text).any (· != .tag)) ||
        (Opening.heading? line.text).isSome)
    match unfinished with
    | .list => common
    | .quote => common || more || interruptsAsItem frame unfinished line
    | _ => common || more || interruptsAsItem frame unfinished line ||
      (table? frame (line :: rest)).isSome

/-- The lines that continue what is unfinished. -/
def continuation (options : Options) (frame : Frame) (unfinished : Unfinished) :
    List Line → List Line
  | [] => []
  | line :: rest =>
    if !line.isEmpty && (frame.isCode line || line.column < 0 ||
        !interrupts options frame unfinished (line :: rest)) then
      line :: continuation options frame unfinished rest
    else []

/-- The lines of a heading that is underlined, its level, and the lines after it. -/
def underlined? (options : Options) (frame : Frame) :
    List Line → Option (List Line × Nat × List Line)
  | [] => Option.none
  | line :: rest =>
    let goOn (_ : Unit) := (underlined? options frame rest).map fun (lines, found) =>
      (line :: lines, found)
    if line.isEmpty then Option.none
    else if frame.isCode line then goOn ()
    else
      match if frame.holds line then Opening.underline? line.text else Option.none with
      | some level => some ([], level, rest)
      | Option.none =>
        if line.column < 0 || !interrupts options frame .paragraph (line :: rest) then goOn ()
        else Option.none

/-- The lines of a fenced block, and the lines after it. -/
def fenced (frame : Frame) (fence : Fence) : List Line → List Line × List Line
  | [] => ([], [])
  | line :: rest =>
    if !line.isEmpty && !frame.holds line then ([], line :: rest)
    else if !frame.isCode line && fence.isClosedBy line.text then ([], rest)
    else
      let (lines, after) := fenced frame fence rest
      (line :: lines, after)

/-- The lines of indented code, and the lines after it. -/
def indented (frame : Frame) (lines : List Line) : List Line × List Line :=
  let found := lines.takeWhile fun line => line.isEmpty || frame.isCode line
  let code := (found.reverse.dropWhile Line.isEmpty).reverse
  (code, lines.drop code.length)

/-- The lines of an HTML block after its first one, and the lines after it. -/
def htmlLines (frame : Frame) (kind : HtmlKind) : List Line → List Line × List Line
  | [] => ([], [])
  | line :: rest =>
    if !frame.holds line then ([], line :: rest)
    else if kind.isClosedBy line.text then
      if line.isEmpty then ([], line :: rest) else ([line], rest)
    else
      let (lines, after) := htmlLines frame kind rest
      (line :: lines, after)

/-- A line of a quote without its mark. One space after the mark belongs to it. -/
def unquote (line : Line) : Line :=
  let text := line.text.drop 1
  let column := line.column.toNat + 1
  let spaced := text.head?.any Text.isBlank
  let whole := text.head? == some ' ' ||
    (text.head? == some '\t' && (line.base + column) % 4 == 3)
  let text := if whole then text.drop 1 else text
  let start := if whole then column + 1 else column
  let margin := text.takeWhile Text.isBlank
  let shift := if spaced && !whole then line.base + 1 else line.base
  let reached := margin.foldl (Line.advance shift) start
  { line with
    margin := margin
    text := text.drop margin.length
    column := reached - start
    base := if spaced then column + 1 else column }

/-- The lines inside a quote. Lines without the mark may continue a paragraph. -/
def quoted (options : Options) (frame : Frame) (lastEmpty : Bool) : List Line → List Line
  | [] => []
  | line :: rest =>
    if line.text.head? == some '>' && frame.holds line then
      let inner := unquote line
      inner :: quoted options frame inner.isEmpty rest
    else if line.isEmpty || lastEmpty || interrupts options frame .quote (line :: rest) then []
    else { line with column := -1 } :: quoted options frame false rest

/-- The rows of a table, and the lines after it. -/
def rows (options : Options) (frame : Frame) (width : Nat) :
    List Line → List (List (List Char)) × List Line
  | [] => ([], [])
  | line :: rest =>
    if !frame.holds line || line.isEmpty || frame.isCode line ||
        interrupts options frame .quote (line :: rest) then ([], line :: rest)
    else
      let cells := ((row line.text).map trimEdges).take width
      let (more, after) := rows options frame width rest
      ((cells ++ List.replicate (width - cells.length) []) :: more, after)

/-- The label of a definition after its opening bracket, and what follows it. -/
def definitionLabel? : List Char → Option (List Char × List Char)
  | [] => Option.none
  | '[' :: _ => Option.none
  | ']' :: rest => some ([], rest)
  | '\\' :: c :: rest =>
    (definitionLabel? rest).map fun (label, after) => ('\\' :: c :: label, after)
  | c :: rest => (definitionLabel? rest).map fun (label, after) => (c :: label, after)

/-- The definition at the start of a paragraph, and what follows it. -/
def definition? (text : List Char) : Option (Definition × List Char) := do
  let skipBlanks (text : List Char) := text.dropWhile Text.isBlank
  let endsLine (text : List Char) := text.head?.all (· == '\n')
  match text with
  | '[' :: rest =>
    let (label, afterLabel) ← definitionLabel? rest
    let key := Definition.key label
    if afterLabel.head? != some ':' then Option.none
    else
      let (address, afterAddress) ← Target.address? (Target.skipGap (afterLabel.drop 1))
      let url := Url.normalize address
      let next := Target.skipGap afterAddress
      let (title, afterTitle) :=
        ((if next.length < afterAddress.length then Target.title? next else Option.none).getD
          ([], afterAddress))
      let last := skipBlanks afterTitle
      let plain := skipBlanks afterAddress
      if key.isEmpty || !Url.isSafe url then Option.none
      else if endsLine last then pure (⟨key, ⟨url, title⟩⟩, last)
      else if !title.isEmpty && endsLine plain then pure (⟨key, ⟨url, []⟩⟩, plain)
      else Option.none
  | _ => Option.none

/-- The item that a line begins: the line without its marker, and the column where
    the content of the item begins. -/
def enterItem (marker : Marker) (line : Line) : Line × Nat :=
  let start := line.column.toNat + marker.length
  let after := line.text.drop marker.length
  let blanks := after.takeWhile Text.isBlank
  let reached := blanks.foldl (Line.advance line.base) start
  let text := after.drop blanks.length
  let indent := if text.isEmpty || start + 4 < reached then 1 else reached - start
  ({ line with
      margin := line.margin ++ line.text.take (marker.length + blanks.length)
      text := text
      column := reached }, start + indent)

end Block

end StaticPages.Markdown
