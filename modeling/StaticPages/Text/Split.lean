namespace StaticPages.Text

/-- Puts a character before the first of some pieces. -/
def extend (c : Char) : List (List Char) → List (List Char)
  | [] => [[c]]
  | piece :: pieces => (c :: piece) :: pieces

/-- The pieces of a text between the places where a separator stands. The places are
    looked for from left to right, each behind the one before. There has to be something
    to look for. -/
def split (separator : List Char) (text : List Char) : List (List Char) :=
  match text with
  | [] => [[]]
  | c :: rest =>
    if separator.isPrefixOf (c :: rest) then
      [] :: split separator (rest.drop (separator.length - 1))
    else extend c (split separator rest)
termination_by text.length
decreasing_by all_goals (simp only [List.length_drop, List.length_cons]; omega)

/-- What comes before the first place where `find` stands, and what comes behind that
    place. There has to be something to look for. -/
def cut? (find : List Char) : List Char → Option (List Char × List Char)
  | [] => none
  | c :: rest =>
    if find.isPrefixOf (c :: rest) then some ([], rest.drop (find.length - 1))
    else (cut? find rest).map fun (before, after) => (c :: before, after)

end StaticPages.Text
