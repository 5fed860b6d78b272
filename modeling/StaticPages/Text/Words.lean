import StaticPages.Text.Split
import StaticPages.Unicode.Category

namespace StaticPages.Text

def isWordChar (c : Char) : Bool :=
  Unicode.isLetter c || Unicode.isNumber c

/-- The runs of letters and numbers of a text. -/
def runs : List Char → List (List Char)
  | [] => []
  | c :: rest =>
    if isWordChar c then
      if rest.head?.any isWordChar then extend c (runs rest) else [c] :: runs rest
    else runs rest

/-- Whether a new word begins between two characters of a run: the first is a
    lower-case letter or a number, the second an upper-case letter. -/
def startsWord (a b : Char) : Bool :=
  (Unicode.isLower a || Unicode.isNumber a) && Unicode.isUpper b

/-- Puts a space into a run wherever a new word begins. The search goes on behind both
    characters of such a place. -/
def spaceWords : List Char → List Char
  | a :: b :: rest =>
    if startsWord a b then a :: ' ' :: b :: spaceWords rest else a :: spaceWords (b :: rest)
  | run => run

/-- The words of a text: its runs of letters and numbers, divided where a new word begins
    within a run. -/
def words (text : List Char) : List (List Char) :=
  (runs text).flatMap fun run => split [' '] (spaceWords run)

end StaticPages.Text
