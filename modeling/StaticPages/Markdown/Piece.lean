import StaticPages.Markdown.Target

namespace StaticPages.Markdown

/-- What a stretch of running text can be marked as. An automatic link shows its
    own address. -/
inductive Style where
  | emphasis
  | strong
  | deleted
  | link (target : Target) (automatic : Bool)
  deriving DecidableEq, Repr

/-- A piece of running text. Stretches have a piece where they begin and one where
    they end. Literal text comes from escapes and entities, and is never read again. -/
inductive Piece where
  | text (chars : List Char)
  | literal (chars : List Char)
  | softBreak
  | hardBreak
  | code (chars : List Char)
  | html (chars : List Char)
  | image (target : Target) (source shown : List Char)
  | opening (style : Style)
  | closing (style : Style)
  deriving DecidableEq, Repr

namespace Piece

/-- Puts a piece in front of others. Texts that meet become one. -/
def join : Piece → List Piece → List Piece
  | .text chars, .text more :: rest => .text (chars ++ more) :: rest
  | piece, rest => piece :: rest

/-- Pieces in which no two texts meet. -/
def joinAll (pieces : List Piece) : List Piece :=
  pieces.foldr join []

/-- What stands for pieces where only text may stand. -/
def plainText (pieces : List Piece) : List Char :=
  pieces.flatMap fun piece =>
    match piece with
    | .text chars => chars
    | .html chars => chars
    | .image _ _ shown => shown
    | .softBreak => ['\n']
    | .hardBreak => ['\n']
    | _ => []

/-- The pieces of a link that shows its own address. -/
def automaticLink (url shown : List Char) : List Piece :=
  let style := Style.link ⟨url, []⟩ true
  [.opening style, .text shown, .closing style]

end Piece

end StaticPages.Markdown
