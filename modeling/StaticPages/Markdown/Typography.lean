import StaticPages.Markdown.Piece

namespace StaticPages.Markdown.Typography

/-- The sign that a few letters in parentheses stand for, with their number. -/
def sign? (text : List Char) : Option (Char × Nat) :=
  match (text.takeWhile Char.isAlpha).map Char.toLower with
  | ['c'] => some ('©', 1)
  | ['r'] => some ('®', 1)
  | ['t', 'm'] => some ('™', 2)
  | _ => none

/-- Signs for their plain spellings. `skip` counts characters that are already
    dealt with. -/
def signs (skip : Nat) : List Char → List Char
  | [] => []
  | c :: rest =>
    if 0 < skip then signs (skip - 1) rest
    else
      match if c == '(' then sign? rest else none with
      | some (sign, length) =>
        if rest[length]? == some ')' then sign :: signs (length + 1) rest else c :: signs 0 rest
      | none => c :: signs 0 rest

/-- The spellings without which a text is left as it is. -/
def spellings : List (List Char) :=
  ["+-", "..", "????", "!!!!", ",,", "--"].map String.toList

/-- Whether one of the spellings stands in a text. -/
def isPlain : List Char → Bool
  | [] => true
  | c :: rest => !(spellings.any fun s => s.isPrefixOf (c :: rest)) && isPlain rest

def isStop (c : Char) : Bool :=
  c == '?' || c == '!'

/-- What an ellipsis becomes after a character: two dots after a question or
    exclamation mark. -/
def ellipsis (before : Option Char) : List Char :=
  if before.any isStop then ['.', '.'] else ['…']

def isLineBreak (c : Char) : Bool :=
  c == '\u2028' || c == '\u2029'

/-- What a run of hyphens becomes between two characters. Three are a long dash;
    two are a short dash between spaces and between words, but not at the end of
    a word. -/
def dashes (before after : Option Char) (count : Nat) : List Char :=
  let spaced (c : Option Char) := c.all Text.isSpace
  let joined (c : Option Char) := c.all fun c => !Text.isSpace c || isLineBreak c
  if count == 3 then ['—']
  else if count == 2 && (spaced before && spaced after || joined before && joined after) then ['–']
  else List.replicate count '-'

/-- Dashes, ellipses and shorter runs of stops for their plain spellings. `skip`
    counts characters that are already dealt with. -/
def improve (before : Option Char) (skip : Nat) : List Char → List Char
  | [] => []
  | c :: rest =>
    if 0 < skip then improve (some c) (skip - 1) rest
    else
      let run := ((c :: rest).takeWhile (· == c)).length
      let stops := (c :: rest).takeWhile isStop
      match c with
      | '.' =>
        if 2 ≤ run then ellipsis before ++ improve (some c) (run - 1) rest
        else c :: improve (some c) 0 rest
      | '…' => ellipsis before ++ improve (some c) 0 rest
      | '-' =>
        dashes before (rest.drop (run - 1)).head? run ++ improve (some c) (run - 1) rest
      | '+' =>
        if rest.head? == some '-' then '±' :: improve (some c) 1 rest
        else c :: improve (some c) 0 rest
      | ',' => c :: improve (some c) (run - 1) rest
      | c =>
        if 4 ≤ stops.length then
          List.replicate 3 (stops.getLast?.getD c) ++ improve (some c) (stops.length - 1) rest
        else c :: improve (some c) 0 rest

/-- A text with signs, dashes and ellipses. -/
def improveText (text : List Char) : List Char :=
  let text := signs 0 text
  if isPlain text then text else improve none 0 text

/-- Improves running text, from its end on. Links that show their own address are
    left alone; `links` counts those that are open. -/
def improveFrom (links : Int) (after : List Piece) : List Piece → List Piece
  | [] => after
  | piece :: before =>
    match piece with
    | .text chars =>
      improveFrom links (.text (if links = 0 then improveText chars else chars) :: after) before
    | .closing (.link _ true) => improveFrom (links + 1) (piece :: after) before
    | .opening (.link _ true) => improveFrom (links - 1) (piece :: after) before
    | _ => improveFrom links (piece :: after) before

def improveAll (pieces : List Piece) : List Piece :=
  improveFrom 0 [] pieces.reverse

end StaticPages.Markdown.Typography
