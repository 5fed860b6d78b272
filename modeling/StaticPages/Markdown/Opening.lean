import StaticPages.Markdown.Line
import StaticPages.Markdown.Tag

namespace StaticPages.Markdown

/-- The marker of a list item: a bullet, or a number with the character after it. -/
structure Marker where
  mark : Char
  number : Option Nat
  length : Nat
  deriving DecidableEq, Repr

/-- The opening of a fenced block of code. -/
structure Fence where
  mark : Char
  count : Nat
  info : List Char
  deriving DecidableEq, Repr

/-- The blocks of HTML, by how they begin and end. -/
inductive HtmlKind where
  | raw
  | comment
  | instruction
  | declaration
  | data
  | element
  | tag
  deriving DecidableEq, Repr

namespace Opening

def isBlankOrEnd (text : List Char) : Bool :=
  text.head?.all Text.isBlank

/-- At least three marks of one kind, and nothing else but blanks. -/
def isRule (text : List Char) : Bool :=
  let marks := text.filter fun c => !Text.isBlank c
  3 ≤ marks.length &&
    (marks.all (· == '-') || marks.all (· == '*') || marks.all (· == '_'))

/-- The level and the text of a heading. Number signs at its end close it. -/
def heading? (text : List Char) : Option (Nat × List Char) :=
  let level := (text.takeWhile (· == '#')).length
  let rest := text.drop level
  if 1 ≤ level && level ≤ 6 && isBlankOrEnd rest then
    let body := rest.reverse.dropWhile Text.isBlank
    let inner := body.dropWhile (· == '#')
    let closed := inner.head?.any Text.isBlank
    some (level, trimEdges (if closed then inner else body).reverse)
  else none

/-- The level of the heading that a line makes of the paragraph above it. -/
def underline? (text : List Char) : Option Nat :=
  match text with
  | c :: _ =>
    let isLine := (text.dropWhile (· == c)).all Text.isBlank
    if c == '=' && isLine then some 1 else if c == '-' && isLine then some 2 else none
  | [] => none

def fence? (text : List Char) : Option Fence :=
  match text with
  | mark :: _ =>
    let count := (text.takeWhile (· == mark)).length
    let info := text.drop count
    if count < 3 then none
    else if mark == '~' || (mark == '\x60' && !info.contains mark) then some ⟨mark, count, info⟩
    else none
  | [] => none

def marker? (text : List Char) : Option Marker :=
  let digits := text.takeWhile Char.isDigit
  match text.drop digits.length with
  | c :: rest =>
    if !isBlankOrEnd rest then none
    else if digits.isEmpty then
      if c == '-' || c == '*' || c == '+' then some ⟨c, none, 1⟩ else none
    else if digits.length ≤ 9 && (c == '.' || c == ')') then
      some ⟨c, some (digits.foldl (fun n d => 10 * n + (d.toNat - 48)) 0), digits.length + 1⟩
    else none
  | [] => none

/-- The tags whose content is no Markdown. -/
def rawTags : List String :=
  ["script", "pre", "style", "textarea"]

/-- The tags that begin a block of HTML wherever they begin a line. -/
def blockTags : List String :=
  ["address", "article", "aside", "base", "basefont", "blockquote", "body", "caption", "center",
    "col", "colgroup", "dd", "details", "dialog", "dir", "div", "dl", "dt", "fieldset",
    "figcaption", "figure", "footer", "form", "frame", "frameset", "h1", "h2", "h3", "h4", "h5",
    "h6", "head", "header", "hr", "html", "iframe", "legend", "li", "link", "main", "menu",
    "menuitem", "nav", "noframes", "ol", "optgroup", "option", "p", "param", "search", "section",
    "summary", "table", "tbody", "td", "tfoot", "th", "thead", "title", "tr", "track", "ul"]

/-- The name of a tag in lower case, and what follows it. -/
def tagName (text : List Char) : String × List Char :=
  let name := text.takeWhile Char.isAlphanum
  (String.ofList (name.map Char.toLower), text.drop name.length)

def isRaw (text : List Char) : Bool :=
  let (name, rest) := tagName text
  rawTags.contains name && rest.head?.all fun c => Text.isSpace c || c == '>'

def isElement (text : List Char) : Bool :=
  let (name, rest) := tagName (if text.head? == some '/' then text.drop 1 else text)
  blockTags.contains name &&
    (rest.head?.all fun c => Text.isSpace c || c == '>' || (c == '/' && rest[1]? == some '>'))

/-- Whether a text after a `<` is one tag and nothing more. -/
def isTag (text : List Char) : Bool :=
  ((Tag.openLength? text).or (Tag.closeLength? text)).any fun length =>
    (text.drop length).all Text.isSpace

/-- The kind of the HTML block that a line begins. -/
def html? : List Char → Option HtmlKind
  | '<' :: rest =>
    if isRaw rest then some .raw
    else if "!--".toList.isPrefixOf rest then some .comment
    else if rest.head? == some '?' then some .instruction
    else if rest.head? == some '!' && rest[1]?.any Char.isUpper then some .declaration
    else if "![CDATA[".toList.isPrefixOf rest then some .data
    else if isElement rest then some .element
    else if isTag rest then some .tag
    else none
  | _ => none

/-- Whether a text has a part that begins with one of some texts. -/
def hasAny (marks : List String) : List Char → Bool
  | [] => false
  | c :: rest => (marks.any fun m => m.toList.isPrefixOf (c :: rest)) || hasAny marks rest

end Opening

/-- Whether a line ends a fenced block. -/
def Fence.isClosedBy (fence : Fence) (text : List Char) : Bool :=
  let count := (text.takeWhile (· == fence.mark)).length
  fence.count ≤ count && (text.drop count).all Text.isBlank

/-- Whether a line ends an HTML block. -/
def HtmlKind.isClosedBy (kind : HtmlKind) (text : List Char) : Bool :=
  match kind with
  | .raw => Opening.hasAny (Opening.rawTags.map fun name => "</" ++ name ++ ">") (text.map Char.toLower)
  | .comment => Opening.hasAny ["-->"] text
  | .instruction => Opening.hasAny ["?>"] text
  | .declaration => Opening.hasAny [">"] text
  | .data => Opening.hasAny ["]]>"] text
  | .element => text.isEmpty
  | .tag => text.isEmpty

end StaticPages.Markdown
