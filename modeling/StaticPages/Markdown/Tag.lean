import StaticPages.Text.Space

namespace StaticPages.Markdown.Tag

/-- Where a reader stands inside a tag. -/
inductive Place where
  | name
  | gap
  | attribute
  | afterAttribute
  | beforeValue
  | bareValue
  | quotedValue (quote : Char)
  | afterValue
  | slash
  deriving DecidableEq, Repr

def isNameChar (c : Char) : Bool :=
  c.isAlphanum || c == '-'

def beginsAttribute (c : Char) : Bool :=
  c.isAlpha || c == '_' || c == ':'

def isAttributeChar (c : Char) : Bool :=
  beginsAttribute c || c.isDigit || c == '.' || c == '-'

/-- The characters of a value without quotes. -/
def isBareChar (c : Char) : Bool :=
  0x20 < c.toNat && !"\"'=<>\x60".toList.contains c

/-- The place after one more character, or none if no tag goes on like this. The
    `>` that ends a tag is no part of the places. -/
def Place.next? (place : Place) (c : Char) : Option Place :=
  let closes : Option Place := if c == '/' then some .slash else none
  let begins : Option Place := if beginsAttribute c then some .attribute else closes
  match place with
  | .name => if isNameChar c then some .name else if Text.isSpace c then some .gap else closes
  | .gap => if Text.isSpace c then some .gap else begins
  | .attribute =>
    if isAttributeChar c then some .attribute
    else if Text.isSpace c then some .afterAttribute
    else if c == '=' then some .beforeValue
    else closes
  | .afterAttribute =>
    if Text.isSpace c then some .afterAttribute
    else if c == '=' then some .beforeValue
    else begins
  | .beforeValue =>
    if Text.isSpace c then some .beforeValue
    else if c == '"' || c == '\'' then some (.quotedValue c)
    else if isBareChar c then some .bareValue
    else none
  | .bareValue =>
    if isBareChar c then some .bareValue else if Text.isSpace c then some .gap else none
  | .quotedValue quote => some (if c == quote then .afterValue else .quotedValue quote)
  | .afterValue => if Text.isSpace c then some .gap else closes
  | .slash => none

/-- Whether a `>` ends the tag. -/
def Place.mayEnd : Place → Bool
  | .beforeValue => false
  | .quotedValue _ => false
  | _ => true

/-- The length of what is left of a tag. -/
def lengthFrom? (place : Place) : List Char → Option Nat
  | [] => none
  | c :: rest =>
    if c == '>' && place.mayEnd then some 1
    else
      match place.next? c with
      | some next => (lengthFrom? next rest).map (· + 1)
      | none => none

/-- The length of the opening tag after a `<`. -/
def openLength? : List Char → Option Nat
  | c :: rest => if c.isAlpha then (lengthFrom? .name rest).map (· + 1) else none
  | [] => none

/-- The length of the closing tag after a `<`. -/
def closeLength? : List Char → Option Nat
  | '/' :: c :: rest =>
    let name := rest.takeWhile isNameChar
    let gap := (rest.drop name.length).takeWhile Text.isSpace
    if c.isAlpha && rest[name.length + gap.length]? == some '>' then
      some (name.length + gap.length + 3)
    else none
  | _ => none

/-- The length of a text up to the end of a mark, which lies at or after its start. -/
def lengthThrough? (mark : List Char) : List Char → Option Nat
  | [] => none
  | c :: rest =>
    if mark.isPrefixOf (c :: rest) then some mark.length
    else (lengthThrough? mark rest).map (· + 1)

/-- The length of a comment after its opening `<!--`. Hyphens are read in pairs
    with the character after them, so that three before a `>` do not end it. -/
def commentLength? : List Char → Option Nat
  | '-' :: '-' :: '>' :: _ => some 3
  | '-' :: '-' :: _ :: rest => (commentLength? rest).map (· + 3)
  | '-' :: '-' :: [] => none
  | '-' :: _ :: rest => (commentLength? rest).map (· + 2)
  | '-' :: [] => none
  | _ :: rest => (commentLength? rest).map (· + 1)
  | [] => none

/-- The length of a comment, an instruction, a declaration or a section of
    character data after a `<`. -/
def markupLength? : List Char → Option Nat
  | '?' :: rest => (lengthThrough? ['?', '>'] rest).map (· + 1)
  | '!' :: '-' :: '-' :: rest =>
    if ['>'].isPrefixOf rest then some 4
    else if ['-', '>'].isPrefixOf rest then some 5
    else (commentLength? rest).map (· + 3)
  | '!' :: rest =>
    if "[CDATA[".toList.isPrefixOf rest then
      (lengthThrough? "]]>".toList (rest.drop 7)).map (· + 8)
    else if rest.head?.any Char.isAlpha then (lengthThrough? ['>'] rest).map (· + 1)
    else none
  | _ => none

/-- The length of the tag or other markup after a `<`. -/
def length? (text : List Char) : Option Nat :=
  (openLength? text).or ((closeLength? text).or (markupLength? text))

/-- Whether a tag begins a link. -/
def opensLink (tag : List Char) : Bool :=
  match tag with
  | '<' :: name :: c :: _ => (name == 'a' || name == 'A') && (c == '>' || Text.isSpace c)
  | _ => false

/-- Whether a tag ends a link. -/
def closesLink (tag : List Char) : Bool :=
  match tag with
  | '<' :: '/' :: name :: rest =>
    (name == 'a' || name == 'A') && (rest.dropWhile Text.isSpace).head? == some '>'
  | _ => false

end StaticPages.Markdown.Tag
