import StaticPages.RenderError
import StaticPages.Source.Token

namespace StaticPages.Heading

open Token

/-- Whether `tag`, in lower case, begins the text in any mixture of cases. -/
def startsTag : List Char → List Char → Bool
  | [], _ => true
  | _ :: _, [] => false
  | t :: tag, c :: text => c.toLower == t && startsTag tag text

/-- The number of characters of a heading's opening tag: `<h1`, then either `>`
    or white space and attributes up to `>`. -/
def openTag? (text : List Char) : Option Nat :=
  if startsTag ['<', 'h', '1'] text then
    match text.drop 3 with
    | '>' :: _ => some 4
    | c :: rest =>
      let attributes := rest.takeWhile (· != '>')
      if Text.isSpace c && attributes.length < rest.length then some (attributes.length + 5)
      else none
    | [] => none
  else none

/-- The number of characters of a heading's closing tag: `</h1`, white space and `>`. -/
def closeTag? (text : List Char) : Option Nat :=
  if startsTag ['<', '/', 'h', '1'] text then
    let spaces := (text.drop 4).takeWhile Text.isSpace
    if (text.drop (4 + spaces.length)).head? = some '>' then some (spaces.length + 5) else none
  else none

/-- The text before the first closing tag, and that tag's number of characters. -/
def untilCloseTag : List Char → Option (List Char × Nat)
  | [] => none
  | c :: rest =>
    match closeTag? (c :: rest) with
    | some length => some ([], length)
    | none => (untilCloseTag rest).map fun (before, length) => (c :: before, length)

/-- The first-level heading at the cursor, past any white space: `# Title` up to
    the end of its line, whose ending is left in place, or `<h1>Title</h1>`. -/
def parse : Parser String := fun c =>
  let start := c.skipSpace
  let afterMark := start.drop 1
  if start.head? = some '#' && afterMark.head?.any Text.isBlank then
    let (line, rest) := afterMark.skipBlanks.takeWhile (· != '\n')
    .ok (Text.trim line, rest)
  else
    match openTag? start.ahead with
    | none => start.refuseAs .missingTitle .noTitle
    | some length =>
      let inner := start.drop length
      match untilCloseTag inner.ahead with
      | none => inner.refuseAs .missingTitle .titleNeverClosed
      | some (raw, close) =>
        .ok (Text.trim (String.ofList raw), inner.drop (raw.length + close))

/-- The title and the text after it. -/
def extract (c : Cursor) : Except RenderError (String × String) :=
  match parse c with
  | .ok (title, rest) => .ok (title, rest.fragment)
  | .error f => .error (.ofFailure f .missingTitle)

theorem parse_reaches {c d : Cursor} {title : String} (h : parse c = .ok (title, d)) :
    c.Reaches d := by
  unfold parse at h
  dsimp only at h
  split at h
  · simp only [Cursor.takeWhile, Except.ok.injEq, Prod.mk.injEq] at h
    obtain ⟨_, rfl⟩ := h
    exact (Cursor.reaches_skipSpace c).trans ((Cursor.reaches_drop _ _).trans
      ((Cursor.reaches_skipBlanks _).trans (Cursor.reaches_skipWhile _ _)))
  · split at h
    · cases h
    · split at h
      · cases h
      · simp only [Except.ok.injEq, Prod.mk.injEq] at h
        obtain ⟨_, rfl⟩ := h
        exact (Cursor.reaches_skipSpace c).trans ((Cursor.reaches_drop _ _).trans
          (Cursor.reaches_drop _ _))

end StaticPages.Heading
