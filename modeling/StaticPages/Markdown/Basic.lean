import StaticPages.Text.Space
import StaticPages.Unicode.Punctuation

namespace StaticPages.Markdown

/-- What the reader of Markdown is asked to understand. -/
structure Options where
  html : Bool := true
  linkify : Bool := false
  typographer : Bool := false
  taskLists : Bool := true
  deriving DecidableEq, Repr

/-- White space in ASCII, which paragraphs do not begin or end with. -/
def isEdgeSpace (c : Char) : Bool :=
  Text.isBlank c || c == '\n' || c == '\r'

/-- A text without ASCII white space at either end. -/
def trimEdges (text : List Char) : List Char :=
  ((text.dropWhile isEdgeSpace).reverse.dropWhile isEdgeSpace).reverse

/-- The ASCII characters that a backslash makes literal. -/
def isMark (c : Char) : Bool :=
  let n := c.toNat
  (0x21 ≤ n && n ≤ 0x2F) || (0x3A ≤ n && n ≤ 0x40) || (0x5B ≤ n && n ≤ 0x60) ||
    (0x7B ≤ n && n ≤ 0x7E)

/-- Punctuation and symbols of any script, between which a word may begin or end. -/
def isPunctuation (c : Char) : Bool :=
  isMark c || Unicode.isPunctuation c || Unicode.isSymbol c

/-- White space between words: space separators and the control characters from
    the tab to the carriage return. -/
def isWordSpace (c : Char) : Bool :=
  let n := c.toNat
  (0x9 ≤ n && n ≤ 0xD) || n == 0x20 || n == 0xA0 || n == 0x1680 || (0x2000 ≤ n && n ≤ 0x200A) ||
    n == 0x202F || n == 0x205F || n == 0x3000

end StaticPages.Markdown
