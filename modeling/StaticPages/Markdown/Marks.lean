import StaticPages.Markdown.Basic
import StaticPages.Markdown.Piece

namespace StaticPages.Markdown

/-- A run of marks that may begin or end stretches of text. Some of its marks may
    already be used up. Tildes count in pairs; one may be left over in front. -/
structure Marks where
  mark : Char
  size : Nat
  left : Nat
  odd : Bool
  canOpen : Bool
  canClose : Bool
  deriving DecidableEq, Repr

/-- What a first reading of running text finds: finished pieces, and marks whose
    partners are not yet known. -/
inductive Item where
  | piece (piece : Piece)
  | marks (marks : Marks)
  deriving Repr

namespace Marks

def isSpaceOrEdge (c : Option Char) : Bool :=
  c.all isWordSpace

/-- Whether a run between two characters leans on what follows it. -/
def leansRight (before after : Option Char) : Bool :=
  !isSpaceOrEdge after &&
    (!after.any isPunctuation || isSpaceOrEdge before || before.any isPunctuation)

/-- The run of `count` marks between two characters. Underscores inside a word
    neither open nor close. -/
def ofRun (mark : Char) (count : Nat) (before after : Option Char) : Marks :=
  let right := leansRight before after
  let left := leansRight after before
  let splits := mark != '_'
  let paired := mark == '~'
  { mark := mark
    size := if paired then 0 else count
    left := if paired then count / 2 else count
    odd := paired && count % 2 == 1
    canOpen := right && (splits || !left || before.any isPunctuation)
    canClose := left && (splits || !right || after.any isPunctuation) }

/-- The marks of a run that are left, as text. -/
def leftover (m : Marks) : List Piece :=
  (if m.odd then [.text [m.mark]] else []) ++
    List.replicate m.left (.text (if m.mark == '~' then ['~', '~'] else [m.mark]))

/-- Whether a run can be the partner of a later run. Where one of them leans to
    both sides, their sizes may not add up to a multiple of three, unless both
    are one. -/
def pairs (opener closer : Marks) : Bool :=
  opener.mark == closer.mark && opener.canOpen && 0 < opener.left &&
    (!(opener.canClose || closer.canOpen) || (opener.size + closer.size) % 3 != 0 ||
      (opener.size % 3 == 0 && closer.size % 3 == 0))

end Marks

namespace Item

/-- The items as they are, marks as text. -/
def settle (items : List Item) : List Piece :=
  items.flatMap fun item =>
    match item with
    | .piece p => [p]
    | .marks m => m.leftover

/-- The items after the nearest partner of a run, the partner, and the items
    before it. The last item comes first. -/
def partner? (closer : Marks) : List Item → Option (List Item × Marks × List Item)
  | [] => none
  | .marks m :: rest =>
    if m.pairs closer then some ([], m, rest)
    else (partner? closer rest).map fun (inside, found) => (.marks m :: inside, found)
  | item :: rest =>
    (partner? closer rest).map fun (inside, found) => (item :: inside, found)

/-- A stretch of text with the pieces at its ends. The second of two marks leaves
    an empty text outside. -/
def enclose (mark : Char) (used : Nat) (inside : List Piece) : List Piece :=
  if mark == '~' then .opening .deleted :: inside ++ [.closing .deleted]
  else if used = 2 then
    [.text [], .opening .strong] ++ inside ++ [.closing .strong, .text []]
  else .opening .emphasis :: inside ++ [.closing .emphasis]

/-- Closes what a run can close, two marks at a time if both partners have two.
    What is left of the run may open. The last item comes first. -/
def close (before : List Item) (closer : Marks) : List Item :=
  if 0 < closer.left then
    match partner? closer before with
    | some (inside, opener, outside) =>
      let used := if 2 ≤ opener.left && 2 ≤ closer.left && closer.mark != '~' then 2 else 1
      let stretch := enclose closer.mark used (settle inside.reverse)
      let opened := Item.marks { opener with left := opener.left - used }
      close ((stretch.map Item.piece).reverse ++ opened :: outside)
        { closer with left := closer.left - used }
    | none => if closer.canOpen then .marks closer :: before else
      (closer.leftover.map Item.piece).reverse ++ before
  else (closer.leftover.map Item.piece).reverse ++ before
termination_by closer.left
decreasing_by split <;> omega

/-- Finds the partners of all marks, from left to right. A link keeps its marks to
    itself: the items around it wait in `outer`. The last item comes first. -/
def resolve (outer : List (List Item)) (before : List Item) : List Item → List Piece
  | [] => settle ((before ++ outer.flatten).reverse)
  | .marks m :: rest =>
    resolve outer (if m.canClose then close before m else .marks m :: before) rest
  | .piece p :: rest =>
    match p, outer with
    | .opening _, _ => resolve ((.piece p :: before) :: outer) [] rest
    | .closing _, around :: outer =>
      let inside := (settle before.reverse).map Item.piece
      resolve outer (.piece p :: inside.reverse ++ around) rest
    | _, _ => resolve outer (.piece p :: before) rest

end Item

end StaticPages.Markdown
