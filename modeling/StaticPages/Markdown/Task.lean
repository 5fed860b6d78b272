import StaticPages.Markdown.Block
import StaticPages.Markdown.Piece

namespace StaticPages.Markdown.Task

/-- Whether the text of an item is a task, and a done one. -/
def done? : List Char → Option Bool
  | '[' :: mark :: ']' :: ' ' :: _ =>
    if mark == ' ' then some false else if mark == 'x' || mark == 'X' then some true else none
  | _ => none

/-- Whether an item of a list is a task, and a done one. -/
def ofItem? : List Block → Option Bool
  | .paragraph text :: _ => done? text
  | _ => none

/-- The box of a task with a number. -/
def box (number : Nat) (done : Bool) : List Char :=
  ("<input class=\"task-list-item-checkbox\"" ++ (if done then " checked=\"\"" else "") ++
    " disabled=\"\" type=\"checkbox\" id=\"task-item-" ++ Nat.repr number ++ "\">").toList

/-- The label of a task with a number. It shows its text as it is written. -/
def label (number : Nat) (text : List Char) : List Char :=
  ("<label class=\"task-list-item-label\" for=\"task-item-" ++ Nat.repr number ++ "\">").toList ++
    text ++ "</label>".toList

/-- The first piece without the brackets of a task. -/
def withoutBrackets : List Piece → List Piece
  | .text chars :: rest => .text (chars.drop 3) :: rest
  | pieces => pieces

/-- The pieces of a task: its box, its running text without the last piece, and its
    label in place of that. -/
def pieces (number : Nat) (done : Bool) (text : List Char) (found : List Piece) : List Piece :=
  .html (box number done) :: (withoutBrackets found).dropLast ++
    [.html (label number (text.drop 3))]

end StaticPages.Markdown.Task
