import StaticPages.Markdown.Basic
import StaticPages.Markdown.Piece

namespace StaticPages.Markdown.Quotes

/-- A straight quotation mark between two characters, and how many stretches of
    text it stands in. -/
structure Quote where
  single : Bool
  level : Int
  before : Char
  after : Char
  deriving Repr

/-- What is met in running text: a piece at some level, or a quotation mark. -/
inductive Event where
  | piece (level : Int)
  | quote (quote : Quote)
  deriving Repr

def isQuote (c : Char) : Bool :=
  c == '"' || c == '\''

/-- What a piece shows next to quotation marks. -/
def content : Piece → List Char
  | .text chars => chars
  | .literal chars => chars
  | .code chars => chars
  | .html chars => chars
  | .image _ source _ => source
  | _ => []

def endsLine : Piece → Bool
  | .softBreak => true
  | .hardBreak => true
  | _ => false

/-- The nearest character that some pieces show, which is a space at the end of
    their line. -/
def nearest (edge : List Char → Option Char) : List Piece → Char
  | [] => ' '
  | piece :: rest =>
    if endsLine piece then ' ' else (edge (content piece)).getD (nearest edge rest)

/-- The quotation marks of a text that stands between two characters. -/
def inText (level : Int) (before after : Char) : List Char → List Event
  | [] => []
  | c :: rest =>
    let quotes := inText level c after rest
    if isQuote c then .quote ⟨c == '\'', level, before, rest.head?.getD after⟩ :: quotes else quotes

/-- The events of running text after the pieces in `before`, which are kept last
    first. -/
def events (level : Int) (before : List Piece) : List Piece → List Event
  | [] => []
  | piece :: rest =>
    match piece with
    | .opening _ => .piece level :: events (level + 1) (piece :: before) rest
    | .closing _ => .piece (level - 1) :: events (level - 1) (piece :: before) rest
    | .text chars =>
      let quotes :=
        inText level (nearest List.getLast? before) (nearest List.head? rest) chars
      .piece level :: quotes ++ events level (piece :: before) rest
    | _ => .piece level :: events level (piece :: before) rest

/-- Whether a mark can open, and whether it can close. Inside words it does neither. -/
def Quote.roles (q : Quote) : Bool × Bool :=
  let spaceBefore := isWordSpace q.before
  let spaceAfter := isWordSpace q.after
  let markBefore := isPunctuation q.before
  let markAfter := isPunctuation q.after
  let opens := !spaceAfter && (!markAfter || spaceBefore || markBefore)
  let closes := !spaceBefore && (!markBefore || spaceAfter || markAfter)
  if q.after == '"' && !q.single && q.before.isDigit then (false, false)
  else if opens && closes then (markBefore, markAfter)
  else (opens, closes)

/-- A mark that waits for its partner, by its number among all marks. -/
structure Waiting where
  number : Nat
  single : Bool
  level : Int
  deriving Repr

/-- The waiting mark that a mark closes, and those that wait before it. The last one
    comes first. -/
def partner? (q : Quote) : List Waiting → Option (Waiting × List Waiting)
  | [] => none
  | w :: rest =>
    if w.level < q.level then none
    else if w.single == q.single && w.level == q.level then some (w, rest)
    else partner? q rest

/-- The curved marks that straight ones become, by their numbers. -/
def curve (number : Nat) (waiting : List Waiting) : List Event → List (Nat × Char)
  | [] => []
  | .piece level :: rest => curve number (waiting.dropWhile fun w => level < w.level) rest
  | .quote q :: rest =>
    let (opens, closes) := q.roles
    let apostrophe := if q.single then [(number, '’')] else []
    if !opens && !closes then apostrophe ++ curve (number + 1) waiting rest
    else
      match if closes then partner? q waiting else none with
      | some (w, others) =>
        [(w.number, if q.single then '‘' else '“'), (number, if q.single then '’' else '”')] ++
          curve (number + 1) others rest
      | none =>
        if opens then curve (number + 1) (⟨number, q.single, q.level⟩ :: waiting) rest
        else apostrophe ++ curve (number + 1) waiting rest

/-- A text with its curved marks, the first of which has a number, and the number
    after the last. -/
def place (curved : List (Nat × Char)) (number : Nat) : List Char → List Char × Nat
  | [] => ([], number)
  | c :: rest =>
    if isQuote c then
      let (text, last) := place curved (number + 1) rest
      ((curved.lookup number).getD c :: text, last)
    else
      let (text, last) := place curved number rest
      (c :: text, last)

def placeAll (curved : List (Nat × Char)) (number : Nat) : List Piece → List Piece
  | [] => []
  | .text chars :: rest =>
    let (text, next) := place curved number chars
    .text text :: placeAll curved next rest
  | piece :: rest => piece :: placeAll curved number rest

/-- Running text with curved quotation marks. -/
def curveAll (pieces : List Piece) : List Piece :=
  placeAll (curve 0 [] (events 0 [] pieces)) 0 pieces

end StaticPages.Markdown.Quotes
