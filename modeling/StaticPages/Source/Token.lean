import StaticPages.Source.Cursor
import StaticPages.Source.Failure

namespace StaticPages

/-- A parser gives a value and the cursor after it, or says why it refuses the
    text. A refusal consumes nothing. -/
abbrev Parser (α : Type) := Cursor → Except Failure (α × Cursor)

namespace Cursor

def refuse {α : Type} (c : Cursor) (problem : Problem) : Except Failure α :=
  .error ⟨problem, c.position, none⟩

/-- Refuses a text that no other parser may try. -/
def refuseAs {α : Type} (c : Cursor) (kind : ErrorKind) (problem : Problem) : Except Failure α :=
  .error ⟨problem, c.position, some kind⟩

end Cursor

namespace Token

/-- Marks a variable. -/
def sigil : String := "£"

def isNameChar (c : Char) : Bool :=
  c.isAlphanum || c == '_'

/-- A letter followed by letters, digits and underscores, all of them ASCII. -/
def identifier : Parser String := fun c =>
  match c.head? with
  | some first => if first.isAlpha then .ok (c.takeWhile isNameChar) else c.refuse .noIdentifier
  | none => c.refuse .noIdentifier

/-- The sigil and an identifier. The value is the bare name. -/
def variableName : Parser String := fun c =>
  match c.after? sigil with
  | none => c.refuse .noVariable
  | some named =>
    match identifier named with
    | .ok found => .ok found
    | .error _ => named.refuse .noVariableName

/-- The line without the carriage return that may end it. -/
def withoutReturn (line : List Char) : List Char :=
  if line.getLast? = some '\r' then line.dropLast else line

/-- What is left of the current line. The line ending is consumed and is not
    part of the value; the end of the text ends the line as well. -/
def restOfLine (c : Cursor) : String × Cursor :=
  (String.ofList (withoutReturn (c.ahead.takeWhile (· != '\n'))),
    (c.skipWhile (· != '\n')).drop 1)

/-- Whether a line holds nothing but white space. -/
def isEmptyLine (line : String) : Bool :=
  line.toList.all Text.isSpace

/-- Splits after the quote that closes a string: the body, and the rest. A
    backslash hides the character after it. -/
def closeQuote : List Char → Option (List Char × List Char)
  | [] => none
  | '"' :: rest => some ([], rest)
  | '\\' :: c :: rest => (closeQuote rest).map fun (body, after) => ('\\' :: c :: body, after)
  | c :: rest => (closeQuote rest).map fun (body, after) => (c :: body, after)

/-- A double-quoted string, over several lines if need be. Backslashes stay in
    the value as they are written. -/
def quotedString : Parser String := fun c =>
  match c.ahead with
  | '"' :: rest =>
    match closeQuote rest with
    | some (body, _) => .ok (String.ofList body, c.drop (body.length + 2))
    | none => c.refuse .unterminatedString
  | _ => c.refuse .noQuotedString

theorem closeQuote_eq {text body after : List Char} (h : closeQuote text = some (body, after)) :
    text = body ++ '"' :: after := by
  fun_induction closeQuote text generalizing body after with
  | case1 => cases h
  | case2 rest => cases h; rfl
  | case3 c rest ih | case4 c rest _ _ ih =>
    obtain ⟨⟨b, a⟩, hfound, heq⟩ := Option.map_eq_some_iff.mp h
    cases heq
    simp [ih hfound]

theorem identifier_reaches {c d : Cursor} {name : String} (h : identifier c = .ok (name, d)) :
    c.Reaches d := by
  unfold identifier at h
  split at h
  · split at h
    · cases h
      exact Cursor.reaches_skipWhile _ c
    · cases h
  · cases h

theorem identifier_length_lt {c d : Cursor} {name : String} (h : identifier c = .ok (name, d)) :
    d.ahead.length < c.ahead.length := by
  unfold identifier at h
  split at h
  · next first hhead =>
    split at h
    · next halpha =>
      cases h
      obtain ⟨rest, hrest⟩ : ∃ rest, c.ahead = first :: rest := by
        unfold Cursor.head? at hhead
        exact List.head?_eq_some_iff.mp hhead
      have hname : isNameChar first = true := by simp [isNameChar, Char.isAlphanum, halpha]
      have hle := (List.dropWhile_sublist (l := rest) isNameChar).length_le
      simp only [Cursor.skipWhile, hrest, List.dropWhile_cons, hname, if_true, List.length_cons]
      omega
    · cases h
  · cases h

theorem variableName_reaches {c d : Cursor} {name : String} (h : variableName c = .ok (name, d)) :
    c.Reaches d := by
  unfold variableName at h
  split at h
  · cases h
  · next named hnamed =>
    split at h
    · next found hfound =>
      cases h
      exact (Cursor.reaches_after? hnamed).trans (identifier_reaches hfound)
    · cases h

theorem restOfLine_reaches (c : Cursor) : c.Reaches (restOfLine c).2 :=
  (Cursor.reaches_skipWhile _ c).trans (Cursor.reaches_drop _ _)

theorem restOfLine_length_lt {c : Cursor} (h : c.ahead ≠ []) :
    (restOfLine c).2.ahead.length < c.ahead.length := by
  have hpos := List.length_pos_iff.mpr h
  have hle := (List.dropWhile_sublist (l := c.ahead) (· != '\n')).length_le
  simp only [restOfLine, Cursor.drop, Cursor.skipWhile, List.length_drop]
  omega

theorem quotedString_reaches {c d : Cursor} {body : String}
    (h : quotedString c = .ok (body, d)) : c.Reaches d := by
  unfold quotedString at h
  split at h
  · split at h
    · cases h
      exact Cursor.reaches_drop _ c
    · cases h
  · cases h

end Token

end StaticPages
