import StaticPages.Source.Position

namespace StaticPages

/-- The classes of errors that a document or a template can have. -/
inductive ErrorKind where
  | malformedMetadataBlock
  | missingTitle
  | malformedPlaceholder
  | undefinedVariable
  | invalidFilterInput
  deriving DecidableEq, Repr

namespace ErrorKind

def all : List ErrorKind :=
  [malformedMetadataBlock, missingTitle, malformedPlaceholder, undefinedVariable, invalidFilterInput]

def name : ErrorKind → String
  | malformedMetadataBlock => "MalformedMetadataBlock"
  | missingTitle => "MissingTitle"
  | malformedPlaceholder => "MalformedPlaceholder"
  | undefinedVariable => "UndefinedVariable"
  | invalidFilterInput => "InvalidFilterInput"

def ofName? (name : String) : Option ErrorKind :=
  all.find? fun kind => kind.name == name

end ErrorKind

/-- Why a parser did not accept the text at its cursor. -/
inductive Problem where
  | noIdentifier
  | noVariable
  | noVariableName
  | noComment
  | noQuotedString
  | unterminatedString
  | noEquals (key : String)
  | textAfterQuoted
  | markerMismatch (opening closing : String)
  | blockNeverClosed (opening : String)
  | titleNeverClosed
  | noTitle
  | noArgumentValue
  | noColon (label : String)
  | lateUnlabelled (filter : String)
  | takesNoArguments (filter : String)
  | unknownArgument (label filter : String) (parameters : List String)
  | repeatedArgument (label filter : String)
  | noFilterName
  | unknownFilter (name : String)
  | notWhole (parameter filter given : String)
  | tooLarge (parameter filter : String) (maximum : Nat) (given : String)
  | unknownCase (given : String)
  | noOpening
  | noClosing (name : String)
  deriving DecidableEq, Repr

namespace Problem

def message : Problem → String
  | noIdentifier => "Expected an identifier starting with a letter"
  | noVariable => "Expected a variable starting with £"
  | noVariableName => "Expected a variable name starting with a letter"
  | noComment => "Expected a comment starting with // or #"
  | noQuotedString => "Expected a quoted string"
  | unterminatedString => "Unterminated quoted string"
  | noEquals key => "Expected \"=\" after \"" ++ key ++ "\""
  | textAfterQuoted => "Unexpected text after quoted value"
  | markerMismatch opening closing =>
    "Metadata block opened with \"" ++ opening ++ "\" cannot be closed with \"" ++ closing ++ "\""
  | blockNeverClosed opening => "Metadata block opened with \"" ++ opening ++ "\" is never closed"
  | titleNeverClosed => "Expected </h1> to close the title"
  | noTitle => "Expected a title (`# Title` or `<h1>Title</h1>`)"
  | noArgumentValue => "Expected a filter argument value"
  | noColon label => "Expected \":\" after \"" ++ label ++ "\""
  | lateUnlabelled filter => "Unlabelled argument to " ++ filter ++ " must come first"
  | takesNoArguments filter => "Filter " ++ filter ++ " takes no arguments"
  | unknownArgument label filter parameters =>
    "Unknown argument \"" ++ label ++ "\" for " ++ filter ++
      " (expected " ++ ", ".intercalate parameters ++ ")"
  | repeatedArgument label filter => "Argument \"" ++ label ++ "\" given twice to " ++ filter
  | noFilterName => "Expected a filter name"
  | unknownFilter name => "Unknown filter \"" ++ name ++ "\""
  | notWhole parameter filter given =>
    "\"" ++ parameter ++ "\" of " ++ filter ++ " must be a whole number, got \"" ++ given ++ "\""
  | tooLarge parameter filter maximum given =>
    "\"" ++ parameter ++ "\" of " ++ filter ++ " must be at most " ++ Nat.repr maximum ++
      ", got \"" ++ given ++ "\""
  | unknownCase given => "Unknown text case \"" ++ given ++ "\""
  | noOpening => "Expected \"\x7b\x7b\""
  | noClosing name => "Expected \"\x7d\x7d\" to close the placeholder for £" ++ name

end Problem

/-- A parser's refusal. It has a kind when the text is an error whatever else
    might be tried in its place. -/
structure Failure where
  problem : Problem
  position : Position
  kind : Option ErrorKind := none
  deriving DecidableEq, Repr

end StaticPages
