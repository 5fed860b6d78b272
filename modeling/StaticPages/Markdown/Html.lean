import StaticPages.Markdown.Address
import StaticPages.Markdown.Inline
import StaticPages.Markdown.Quotes
import StaticPages.Markdown.Reader
import StaticPages.Markdown.Task
import StaticPages.Markdown.Typography

namespace StaticPages.Markdown

/-- A character as text of an HTML page. -/
def escapeChar : Char → List Char
  | '<' => "&lt;".toList
  | '>' => "&gt;".toList
  | '&' => "&amp;".toList
  | '"' => "&quot;".toList
  | c => [c]

def escape (text : List Char) : List Char :=
  text.flatMap escapeChar

/-- An attribute with a space in front. -/
def attributeText (name : String) (value : List Char) : List Char :=
  (" " ++ name ++ "=\"").toList ++ escape value ++ ['"']

def titleAttribute (target : Target) : List Char :=
  if target.title.isEmpty then [] else attributeText "title" target.title

def Style.name : Style → String
  | emphasis => "em"
  | strong => "strong"
  | deleted => "s"
  | link _ _ => "a"

def Style.attributes : Style → List Char
  | link target _ => attributeText "href" target.url ++ titleAttribute target
  | _ => []

/-- A piece of running text as HTML. -/
def Piece.toHtml : Piece → List Char
  | text chars => escape chars
  | literal chars => escape chars
  | softBreak => ['\n']
  | hardBreak => "<br />\n".toList
  | code chars => "<code>".toList ++ escape chars ++ "</code>".toList
  | html chars => chars
  | image target _ shown =>
    "<img".toList ++ attributeText "src" target.url ++ attributeText "alt" shown ++
      titleAttribute target ++ " />".toList
  | opening style => ("<" ++ style.name).toList ++ style.attributes ++ ['>']
  | closing style => ("</" ++ style.name ++ ">").toList

/-- The side that a style sheet names. -/
def Alignment.name? : Alignment → Option String
  | .none => Option.none
  | .left => some "left"
  | .center => some "center"
  | .right => some "right"

/-- Running text as HTML, with links for bare addresses and with typographic signs if
    the options ask for them. `source` is the text as it is written. -/
def finishText (options : Options) (source : List Char) (pieces : List Piece) : List Char :=
  let pieces := if options.linkify then Address.linkAll source pieces else pieces
  let pieces :=
    if options.typographer then Quotes.curveAll (Typography.improveAll pieces) else pieces
  pieces.flatMap Piece.toHtml

namespace Block

/-- Options and definitions for all blocks of a text. -/
structure Setting where
  options : Options
  definitions : List Definition

def Setting.pieces (s : Setting) (text : List Char) : List Piece :=
  Inline.ofChars s.options s.definitions text

def Setting.text (s : Setting) (text : List Char) : List Char :=
  finishText s.options text (s.pieces text)

/-- The running text of a task with a number. -/
def Setting.task (s : Setting) (number : Nat) (done : Bool) (text : List Char) : List Char :=
  finishText s.options (text.drop 3) (Task.pieces number done text (s.pieces text))

/-- Whether an item is a task, if tasks are asked for. -/
def Setting.task? (s : Setting) (item : List Block) : Option Bool :=
  if s.options.taskLists then Task.ofItem? item else none

/-- An element that ends its line. -/
def element (name : String) (content : List Char) : List Char :=
  ("<" ++ name ++ ">").toList ++ content ++ ("</" ++ name ++ ">\n").toList

/-- An element whose content begins on a line of its own. -/
def wideElement (name : String) (content : List Char) : List Char :=
  element name ('\n' :: content)

/-- The language of a block of code, as the first word after its fence gives it. -/
def language (info : List Char) : List Char :=
  (Text.trimChars (Entity.unescape 0 info)).takeWhile fun c => !Text.isSpace c

def codeToHtml (info : Option (List Char)) (text : List Char) : List Char :=
  let language := language (info.getD [])
  let name := if language.isEmpty then [] else attributeText "class" ("language-".toList ++ language)
  "<pre><code".toList ++ name ++ ['>'] ++ escape text ++ "</code></pre>\n".toList

/-- A row of a table, whose cells are elements of a name. -/
def rowToHtml (s : Setting) (name : String) (columns : List Alignment)
    (cells : List (List Char)) : List Char :=
  wideElement "tr" ((columns.zip cells).flatMap fun (alignment, cell) =>
    let style :=
      match alignment.name? with
      | some side => " style=\"text-align:" ++ side ++ "\""
      | none => ""
    ("<" ++ name ++ style ++ ">").toList ++ s.text cell ++ ("</" ++ name ++ ">\n").toList)

def tableToHtml (s : Setting) (columns : List Alignment) (head : List (List Char))
    (rows : List (List (List Char))) : List Char :=
  let body := rows.flatMap (rowToHtml s "td" columns)
  wideElement "table" (wideElement "thead" (rowToHtml s "th" columns head) ++
    if rows.isEmpty then [] else wideElement "tbody" body)

/-- The opening tag of a list. -/
def listTag (name : String) (start : Option Nat) (hasTasks : Bool) : List Char :=
  let first := if start.all (· == 1) then "" else " start=\"" ++ Nat.repr (start.getD 1) ++ "\""
  let tasks := if hasTasks then " class=\"contains-task-list\"" else ""
  ("<" ++ name ++ first ++ tasks ++ ">\n").toList

/-- Whether a block in an item of a list stands on a line of its own. Paragraphs of
    tight lists do not. -/
def startsLine (tight : Bool) (blocks : List Block) : Bool :=
  match blocks with
  | [] => false
  | .paragraph _ :: _ => !tight
  | _ => true

/-- The line ending between a paragraph of a tight list and a block. Code and HTML
    follow directly. -/
def gapBefore (afterTight : Bool) : Block → List Char
  | .code _ _ => []
  | .html _ => []
  | _ => if afterTight then ['\n'] else []

mutual

/-- A block as HTML, and the number of the next task. In tight lists paragraphs have
    no element of their own. `task` tells whether the block is the text of a task,
    and a done one. -/
def blockToHtml (s : Setting) (tight : Bool) (task : Option Bool) (number : Nat) :
    Block → List Char × Nat
  | .heading level text => (element ("h" ++ Nat.repr level) (s.text text), number)
  | .paragraph text =>
    let (shown, next) :=
      match task with
      | some done => (s.task number done text, number + 1)
      | none => (s.text text, number)
    (if tight then shown else element "p" shown, next)
  | .rule => ("<hr />\n".toList, number)
  | .code info text => (codeToHtml info text, number)
  | .html text => (text, number)
  | .table columns head rows => (tableToHtml s columns head rows, number)
  | .quote content =>
    let (inside, next) := blocksToHtml s false false none number content
    (if content.isEmpty then element "blockquote" [] else wideElement "blockquote" inside, next)
  | .list start tight items =>
    let name := if start.isSome then "ol" else "ul"
    let (inside, next) := itemsToHtml s tight number items
    (listTag name start (items.any fun item => (s.task? item).isSome) ++ inside ++
      ("</" ++ name ++ ">\n").toList, next)

/-- Blocks as HTML. `afterTight` tells whether a paragraph of a tight list comes
    before them, and `task` is for the first of them. -/
def blocksToHtml (s : Setting) (tight afterTight : Bool) (task : Option Bool) (number : Nat) :
    List Block → List Char × Nat
  | [] => ([], number)
  | block :: rest =>
    let isTight := !startsLine tight [block]
    let (first, next) := blockToHtml s tight task number block
    let (more, last) := blocksToHtml s tight isTight none next rest
    ((if isTight then [] else gapBefore afterTight block) ++ first ++ more, last)

/-- The items of a list as HTML. Tasks are numbered from `number` on. -/
def itemsToHtml (s : Setting) (tight : Bool) (number : Nat) :
    List (List Block) → List Char × Nat
  | [] => ([], number)
  | item :: rest =>
    let task := s.task? item
    let name := if task.isSome then "<li class=\"task-list-item\">" else "<li>"
    let start := if startsLine tight item then ['\n'] else []
    let (inside, next) := blocksToHtml s tight false task number item
    let (more, last) := itemsToHtml s tight next rest
    (name.toList ++ start ++ inside ++ "</li>\n".toList ++ more, last)

end

end Block

/-- Markdown as an HTML fragment, without a line ending after the last block. Void
    tags are closed with a slash. -/
def render (options : Options) (source : String) : String :=
  let (blocks, definitions) := Block.ofChars options source.toList
  let (html, _) := Block.blocksToHtml ⟨options, definitions⟩ false false none 1 blocks
  String.ofList (if html.getLast? == some '\n' then html.dropLast else html)

end StaticPages.Markdown
