import StaticPages.Markdown.Block

namespace StaticPages.Markdown.Block

/-- What is read from some lines: blocks and definitions, and the lines that are left.
    Blocks are apart if an empty line comes before the last of them. -/
structure Reading where
  blocks : List Block := []
  definitions : List Definition := []
  apart : Bool := false
  rest : List Line

/-- The items of a list, and whether they stay close together. -/
structure Items where
  items : List (List Block) := []
  definitions : List Definition := []
  tight : Bool := true
  rest : List Line

/-- The lines that are read when some are left. -/
def taken (lines rest : List Line) : List Line :=
  lines.take (lines.length - rest.length)

def endsEmpty (lines rest : List Line) : Bool :=
  (taken lines rest).getLast?.any Line.isEmpty

/-- The heading, or the paragraph, that some lines begin with. -/
def readText (options : Options) (frame : Frame) (line : Line) (rest : List Line) : Reading :=
  let text (lines : List Line) := trimEdges (Line.content frame.column lines)
  match underlined? options frame rest with
  | some (lines, level, after) => { blocks := [.heading level (text (line :: lines))], rest := after }
  | none =>
    let lines := continuation options frame .paragraph rest
    { blocks := [.paragraph (text (line :: lines))], rest := rest.drop lines.length }

/-- The definition that some lines begin with. -/
def readDefinition? (options : Options) (frame : Frame) (line : Line) (rest : List Line) :
    Option Reading := do
  if line.text.head? != some '[' then none
  else
    let lines := line :: continuation options frame .definition rest
    let text := ['\n'].intercalate (lines.map Line.text)
    let (definition, after) ← definition? text
    let used := (text.take (text.length - after.length)).count '\n'
    pure { definitions := [definition], rest := rest.drop used }

/-- The block that some lines begin with, if it holds no other blocks. -/
def readLeaf? (options : Options) (frame : Frame) (line : Line) (rest : List Line) :
    Option Reading :=
  match table? frame (line :: rest) with
  | some (columns, head) =>
    let (rows, after) := rows options frame columns.length (rest.drop 1)
    some { blocks := [.table columns head rows], rest := after }
  | none =>
    if frame.isCode line then
      let (lines, after) := indented frame (line :: rest)
      let text := Line.content (frame.column + 4) lines ++ ['\n']
      some { blocks := [.code none text], rest := after }
    else
      match Opening.fence? line.text with
      | some fence =>
        let (lines, after) := fenced frame fence rest
        let text := Line.wholeContent line.column.toNat lines
        some { blocks := [.code (some fence.info) text], rest := after }
      | none =>
        if line.text.head? != some '>' && Opening.isRule line.text then
          some { blocks := [.rule], rest := rest }
        else none

/-- The block that some lines begin with, if it is neither of those that are looked
    for before lists nor a list. -/
def readOther (options : Options) (frame : Frame) (line : Line) (rest : List Line) : Reading :=
  match readDefinition? options frame line rest with
  | some reading => reading
  | none =>
    match if options.html then Opening.html? line.text else none with
    | some kind =>
      let (lines, after) :=
        if kind.isClosedBy line.text then ([], rest) else htmlLines frame kind rest
      let text := Line.wholeContent frame.column (line :: lines)
      { blocks := [.html text], rest := after }
    | none =>
      match Opening.heading? line.text with
      | some (level, text) => { blocks := [.heading level text], rest := rest }
      | none => readText options frame line rest

/-- The marker of the next item of a list, if the list goes on. -/
def nextMarker? (options : Options) (frame : Frame) (marker : Marker) (lines : List Line) :
    Option Marker := do
  let line ← lines.head?
  if !frame.holds line || frame.isCode line || interrupts options frame .list lines then none
  else
    let next ← Opening.marker? line.text
    if next.mark == marker.mark && next.number.isSome == marker.number.isSome then pure next
    else none

mutual

/-- Reads blocks. `gap` tells whether there was an empty line between those before.
    The first argument bounds the number of steps. -/
def readBlocks (options : Options) : Nat → Frame → Bool → List Line → Reading
  | 0, _, _, lines => { rest := lines }
  | steps + 1, frame, gap, lines =>
    match lines.dropWhile Line.isEmpty with
    | [] => { rest := [] }
    | line :: rest =>
      if !frame.holds line then { rest := line :: rest }
      else if maxLevel ≤ frame.level then { rest := [] }
      else
        let found := readBlock options steps frame line rest
        let gapAfter := gap || endsEmpty (line :: rest) found.rest ||
          found.rest.head?.any Line.isEmpty
        let after := if found.rest.head?.any Line.isEmpty then found.rest.drop 1 else found.rest
        let more := readBlocks options steps frame gapAfter after
        let isLast := more.blocks.isEmpty && more.definitions.isEmpty
        { blocks := found.blocks ++ more.blocks
          definitions := found.definitions ++ more.definitions
          apart := if isLast then gap else more.apart
          rest := more.rest }

/-- Reads one block. -/
def readBlock (options : Options) : Nat → Frame → Line → List Line → Reading
  | 0, _, _, rest => { rest := rest }
  | steps + 1, frame, line, rest =>
    match readLeaf? options frame line rest with
    | some reading => reading
    | none =>
      if line.text.head? == some '>' then
        let inner := quoted options frame false (line :: rest)
        let inside := { frame with column := 0, level := frame.level + 1 }
        let content := readBlocks options steps inside false inner
        { blocks := [.quote content.blocks]
          definitions := content.definitions
          rest := (line :: rest).drop (inner.length - content.rest.length) }
      else
        match frame.marker? line with
        | some marker =>
          let list := readItems options steps frame marker false line rest
          { blocks := [.list marker.number list.tight list.items]
            definitions := list.definitions
            rest := list.rest }
        | none => readOther options frame line rest

/-- Reads the items of a list. `gap` tells whether the item before ends with an
    empty line. -/
def readItems (options : Options) : Nat → Frame → Marker → Bool → Line → List Line → Items
  | 0, _, _, _, _, rest => { rest := rest }
  | steps + 1, frame, marker, gap, line, rest =>
    let (inner, column) := enterItem marker line
    let item : Reading :=
      if inner.isEmpty && rest.head?.all Line.isEmpty then { rest := rest.drop 1 }
      else
        readBlocks options steps ⟨column, some frame.column, frame.level + 2⟩ false (inner :: rest)
    let tight := !item.apart && !gap
    match nextMarker? options frame marker item.rest, item.rest with
    | some next, line' :: rest' =>
      let gapAfter := item.rest.length < rest.length && endsEmpty (line :: rest) item.rest
      let more := readItems options steps frame next gapAfter line' rest'
      { items := item.blocks :: more.items
        definitions := item.definitions ++ more.definitions
        tight := tight && more.tight
        rest := more.rest }
    | _, _ =>
      { items := [item.blocks], definitions := item.definitions, tight := tight, rest := item.rest }

end

/-- The blocks of a text, and the targets that its links can refer to. -/
def ofChars (options : Options) (text : List Char) : List Block × List Definition :=
  let lines := Line.split [] text
  let reading := readBlocks options (4 * (text.length + lines.length) + 4) {} false lines
  (reading.blocks, reading.definitions)

end StaticPages.Markdown.Block
