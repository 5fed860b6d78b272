import StaticPages.Json.Basic

namespace StaticPages.Json

/-- A control character as four hexadecimal digits. -/
def unicodeEscape (n : Nat) : List Char :=
  let digits := Nat.toDigits 16 n
  ['\\', 'u'] ++ List.replicate (4 - digits.length) '0' ++ digits

/-- A character inside a JSON string. Only quotes, backslashes and control
    characters are escaped. -/
def escape (c : Char) : List Char :=
  match c with
  | '"' => ['\\', '"']
  | '\\' => ['\\', '\\']
  | '\x08' => ['\\', 'b']
  | '\t' => ['\\', 't']
  | '\n' => ['\\', 'n']
  | '\x0c' => ['\\', 'f']
  | '\r' => ['\\', 'r']
  | c => if c.toNat < 0x20 then unicodeEscape c.toNat else [c]

/-- A text as a JSON string. -/
def quote (text : String) : String :=
  String.ofList ('"' :: (text.toList.flatMap escape ++ ['"']))

def literal (value : Bool) : String :=
  if value then "true" else "false"

mutual

/-- A value without any white space. -/
def compact : Json → String
  | .null => "null"
  | .bool value => literal value
  | .number value => value.toText
  | .string value => quote value
  | .array items => "[" ++ ",".intercalate (compactItems items) ++ "]"
  | .object fields => "\x7b" ++ ",".intercalate (compactFields fields) ++ "\x7d"

def compactItems : List Json → List String
  | [] => []
  | item :: rest => compact item :: compactItems rest

def compactFields : List (String × Json) → List String
  | [] => []
  | (key, value) :: rest => (quote key ++ ":" ++ compact value) :: compactFields rest

end

/-- Lines between brackets, indented by two spaces more than the brackets. -/
def enclose (depth : Nat) (opening closing : String) (lines : List String) : String :=
  let indent (n : Nat) := String.ofList ('\n' :: List.replicate (2 * n) ' ')
  if lines.isEmpty then opening ++ closing
  else
    opening ++ indent (depth + 1) ++ (("," ++ indent (depth + 1)).intercalate lines) ++
      indent depth ++ closing

mutual

/-- A value with every item and field on a line of its own. -/
def prettyAt (depth : Nat) : Json → String
  | .null => "null"
  | .bool value => literal value
  | .number value => value.toText
  | .string value => quote value
  | .array items => enclose depth "[" "]" (prettyItems (depth + 1) items)
  | .object fields => enclose depth "\x7b" "\x7d" (prettyFields (depth + 1) fields)

def prettyItems (depth : Nat) : List Json → List String
  | [] => []
  | item :: rest => prettyAt depth item :: prettyItems depth rest

def prettyFields (depth : Nat) : List (String × Json) → List String
  | [] => []
  | (key, value) :: rest =>
    (quote key ++ ": " ++ prettyAt depth value) :: prettyFields depth rest

end

def pretty (value : Json) : String :=
  prettyAt 0 value

end StaticPages.Json
