import StaticPages.Markdown.Piece
import StaticPages.Markdown.Tag
import StaticPages.Url.Search

namespace StaticPages.Markdown.Address

def http : List Char := "http://".toList

def mailto : List Char := "mailto:".toList

def withoutStart (start text : List Char) : List Char :=
  if start.isPrefixOf text then text.drop start.length else text

/-- An address of running text as it is linked. -/
def linked (kind : Url.Kind) (text : List Char) : List Char :=
  match kind with
  | .schemed => Url.normalize text
  | .host => Url.normalize (http ++ text)
  | .mail =>
    Url.normalize (if mailto.isPrefixOf (text.map Char.toLower) then text else mailto ++ text)

/-- An address of running text as it is shown: without a scheme if it has none there. -/
def shown (kind : Url.Kind) (text : List Char) : List Char :=
  match kind with
  | .schemed => Url.display text
  | .host => withoutStart http (Url.display (http ++ text))
  | .mail =>
    if mailto.isPrefixOf (text.map Char.toLower) then Url.display text
    else withoutStart mailto (Url.display (mailto ++ text))

/-- A text, if there is any. -/
def textPiece (text : List Char) : List Piece :=
  if text.isEmpty then [] else [.text text]

/-- A text with links for the addresses in it. `held` is text since the last link. -/
def linkFound (held : List Char) : List Url.Found → List Char → List Piece
  | [], last => textPiece (held ++ last)
  | found :: rest, last =>
    let url := linked found.kind found.text
    if Url.isSafe url then
      textPiece (held ++ found.before) ++ Piece.automaticLink url (shown found.kind found.text) ++
        linkFound [] rest last
    else linkFound (held ++ found.before ++ found.text) rest last

/-- A text with links for the addresses in it. An address right after a literal
    character is not linked. -/
def linkText (afterLiteral : Bool) (text : List Char) : List Piece :=
  match Url.findAll text.length text with
  | ([], _) => [.text text]
  | (first :: rest, last) =>
    if afterLiteral && first.before.isEmpty then linkFound first.text rest last
    else linkFound [] (first :: rest) last

/-- Links for the addresses in running text, from its end on. There are none inside
    other links. `tags` counts the links of the page that are open. -/
def linkPieces (inLink : Bool) (tags : Nat) (after : List Piece) : List Piece → List Piece
  | [] => after
  | piece :: before =>
    if inLink then
      match piece with
      | .opening (.link _ _) => linkPieces false tags (piece :: after) before
      | _ => linkPieces true tags (piece :: after) before
    else
      match piece with
      | .closing (.link _ _) => linkPieces true tags (piece :: after) before
      | .html tag =>
        let tags := if Tag.opensLink tag then tags - 1 else tags
        let tags := if Tag.closesLink tag then tags + 1 else tags
        linkPieces false tags (piece :: after) before
      | .text chars =>
        let afterLiteral :=
          match before.head? with
          | some (.literal _) => true
          | _ => false
        let pieces := if tags = 0 then linkText afterLiteral chars else [piece]
        linkPieces false tags (pieces ++ after) before
      | _ => linkPieces false tags (piece :: after) before

/-- Running text with links for the addresses that stand bare in it. -/
def linkAll (source : List Char) (pieces : List Piece) : List Piece :=
  if Url.mayHoldAddress source then linkPieces false 0 [] pieces.reverse else pieces

end StaticPages.Markdown.Address
