import StaticPages.Markdown.Basic

namespace StaticPages.Markdown

/-- A line inside the blocks that hold it. `margin` comes before its text: blanks,
    and marks of lists. `column` is where the text begins, counted from the place
    where the enclosing quote begins; it is negative where a line continues a
    paragraph without the marks of the quote. `base` is the column of that place,
    from which tab stops are counted. -/
structure Line where
  margin : List Char
  text : List Char
  column : Int
  base : Nat
  ended : Bool
  deriving DecidableEq, Repr

namespace Line

/-- The column after a blank, for columns that are counted from `base`. -/
def advance (base column : Nat) (c : Char) : Nat :=
  if c == '\t' then column + (4 - (column + base) % 4) else column + 1

/-- A line that starts at a column, and whose text follows its blanks. -/
def ofChars (ended : Bool) (chars : List Char) : Line :=
  let margin := chars.takeWhile Text.isBlank
  ⟨margin, chars.drop margin.length, Int.ofNat (margin.foldl (advance 0) 0), 0, ended⟩

def isEmpty (line : Line) : Bool :=
  line.text.isEmpty

/-- The margin of a line from a column on. The part of a tab that lies past it is
    written with spaces. -/
def cutMargin (base column start : Nat) : List Char → List Char
  | [] => List.replicate (column - start) ' '
  | c :: rest =>
    if start ≤ column then List.replicate (column - start) ' ' ++ c :: rest
    else cutMargin base (if Text.isBlank c then advance base column c else column + 1) start rest

/-- The content of a line from a column on. -/
def cut (start : Nat) (line : Line) : List Char :=
  cutMargin line.base 0 start line.margin ++ line.text

/-- The content of some lines from a column on, with line endings between them. -/
def content (start : Nat) (lines : List Line) : List Char :=
  ['\n'].intercalate (lines.map (cut start))

/-- The content of some lines from a column on, each with its own line ending. -/
def wholeContent (start : Nat) (lines : List Line) : List Char :=
  lines.flatMap fun line => line.cut start ++ if line.ended then ['\n'] else []

/-- The lines of a text. Line endings are a line feed, a carriage return, or both;
    what follows the last one is a line if it is not blank. -/
def split (held : List Char) : List Char → List Line
  | [] => if held.all Text.isBlank then [] else [ofChars false held.reverse]
  | '\r' :: '\n' :: rest => ofChars true held.reverse :: split [] rest
  | c :: rest =>
    if c == '\n' || c == '\r' then ofChars true held.reverse :: split [] rest
    else split ((if c == '\x00' then '\uFFFD' else c) :: held) rest

end Line

end StaticPages.Markdown
