import StaticPages.Text.Case
import StaticPages.Text.Space
import StaticPages.Text.Words

namespace StaticPages

/-- The ways to write a text in another case. -/
inductive TextCase where
  | lower
  | upper
  | title
  | kebab
  | snake
  | pascal
  | camel
  | invert
  deriving DecidableEq, Repr

namespace TextCase

def all : List TextCase :=
  [lower, upper, title, kebab, snake, pascal, camel, invert]

def name : TextCase → String
  | lower => "lower"
  | upper => "upper"
  | title => "title"
  | kebab => "kebab"
  | snake => "snake"
  | pascal => "pascal"
  | camel => "camel"
  | invert => "invert"

/-- Separators carry no meaning in the name of a case. -/
def isSeparator (c : Char) : Bool :=
  c == '-' || c == '_' || Text.isSpace c

/-- A key without a final `case`, unless that is all of it. -/
def withoutSuffix (key : List Char) : List Char :=
  let suffix := ['c', 'a', 's', 'e']
  if suffix.isSuffixOf key && suffix.length < key.length then
    key.take (key.length - suffix.length)
  else key

/-- Reads the name of a case as templates write it. The case of its letters,
    separators and a final `case` make no difference. -/
def ofName? (given : String) : Option TextCase :=
  let key := withoutSuffix ((Text.lower given.toList).filter fun c => !isSeparator c)
  all.find? fun c => c.name == String.ofList key

end TextCase

namespace Text

/-- Writes the first character after white space in upper case. `inside` says
    that the text goes on from another character than white space. -/
def titleAfter (inside : Bool) : List Char → List Char
  | [] => []
  | c :: rest =>
    if isSpace c then c :: titleAfter false rest
    else if inside then c :: titleAfter true rest
    else Unicode.upper c ++ titleAfter true rest

/-- The words in lower case with a separator between them. -/
def lowerWords (separator : Char) (text : List Char) : List Char :=
  [separator].intercalate ((words text).map lower)

/-- The first word in lower case, the others capitalized. -/
def camelWords : List (List Char) → List (List Char)
  | [] => []
  | word :: rest => lower word :: rest.map capitalize

def convertChars (text : List Char) : TextCase → List Char
  | .lower => lower text
  | .upper => upper text
  | .title => titleAfter false text
  | .kebab => lowerWords '-' text
  | .snake => lowerWords '_' text
  | .pascal => ((words text).map capitalize).flatten
  | .camel => (camelWords (words text)).flatten
  | .invert => text.flatMap invertChar

/-- The text in another case. -/
def convert (text : String) (textCase : TextCase) : String :=
  String.ofList (convertChars text.toList textCase)

end Text

end StaticPages
