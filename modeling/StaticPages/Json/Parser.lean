import StaticPages.Json.Basic
import StaticPages.Text.Hex
import StaticPages.Text.Units

namespace StaticPages.Json

/-- The four characters that may stand between tokens. -/
def isGap (c : Char) : Bool :=
  c == ' ' || c == '\t' || c == '\n' || c == '\r'

def skipGap (text : List Char) : List Char :=
  text.dropWhile isGap

def hexCode? (a b c d : Char) : Option Nat := do
  let a ← Text.hexDigit? a
  let b ← Text.hexDigit? b
  let c ← Text.hexDigit? c
  let d ← Text.hexDigit? d
  pure (((a * 16 + b) * 16 + c) * 16 + d)

/-- The code that a character stands for after a backslash. -/
def escaped? : Char → Option Nat
  | '"' => some 0x22
  | '\\' => some 0x5C
  | '/' => some 0x2F
  | 'b' => some 0x8
  | 'f' => some 0xC
  | 'n' => some 0xA
  | 'r' => some 0xD
  | 't' => some 0x9
  | _ => none

/-- The codes in a string after its opening quote, and what follows the closing
    one. An escape by number may give half of a surrogate pair. -/
def stringCodes : List Char → Option (List Nat × List Char)
  | [] => none
  | '"' :: rest => some ([], rest)
  | '\\' :: 'u' :: a :: b :: c :: d :: rest =>
    match hexCode? a b c d with
    | some code => (stringCodes rest).map fun (codes, after) => (code :: codes, after)
    | none => none
  | '\\' :: c :: rest =>
    match escaped? c with
    | some code => (stringCodes rest).map fun (codes, after) => (code :: codes, after)
    | none => none
  | c :: rest =>
    if c.toNat < 0x20 || c == '\\' then none
    else (stringCodes rest).map fun (codes, after) => (c.toNat :: codes, after)

def stringBody (text : List Char) : Option (String × List Char) :=
  (stringCodes text).map fun (codes, after) => (String.ofList (Text.ofUnits codes), after)

/-- At least one digit, and what follows the digits. -/
def digits? (text : List Char) : Option (List Char × List Char) :=
  let found := text.takeWhile Char.isDigit
  if found.isEmpty then none else some (found, text.dropWhile Char.isDigit)

/-- The whole part of a number has no zeros in front. -/
def wholePart? (text : List Char) : Option (List Char × List Char) :=
  match text with
  | '0' :: rest => some (['0'], rest)
  | text => digits? text

def fractionPart? (text : List Char) : Option (List Char × List Char) :=
  match text with
  | '.' :: rest => digits? rest
  | text => some ([], text)

def exponentPart? (text : List Char) : Option (Int × List Char) :=
  match text with
  | e :: rest =>
    if e == 'e' || e == 'E' then
      let (negative, unsigned) := Numeral.takeSign rest
      (digits? unsigned).map fun (found, after) =>
        let magnitude : Int := Decimal.ofDigits found
        (if negative then -magnitude else magnitude, after)
    else some (0, text)
  | [] => some (0, text)

def number? (text : List Char) : Option (Json × List Char) := do
  let (negative, unsigned) :=
    match text with
    | '-' :: rest => (true, rest)
    | text => (false, text)
  let (whole, afterWhole) ← wholePart? unsigned
  let (fraction, afterFraction) ← fractionPart? afterWhole
  let (exponent, rest) ← exponentPart? afterFraction
  pure (.number (Numeral.value ⟨negative, whole, fraction, exponent⟩), rest)

/-- A literal word, if the text begins with it. -/
def word? (word : String) (value : Json) (text : List Char) : Option (Json × List Char) :=
  let letters := word.toList
  if letters.isPrefixOf text then some (value, text.drop letters.length) else none

mutual

/-- A value, with any gap before it. The first argument bounds the number of steps. -/
def value? : Nat → List Char → Option (Json × List Char)
  | 0, _ => none
  | steps + 1, text =>
    match skipGap text with
    | [] => none
    | '"' :: rest => (stringBody rest).map fun (text, after) => (.string text, after)
    | '[' :: rest =>
      match skipGap rest with
      | ']' :: after => some (.array [], after)
      | inside => (items? steps inside).map fun (items, after) => (.array items, after)
    | '\x7b' :: rest =>
      match skipGap rest with
      | '\x7d' :: after => some (.object [], after)
      | inside =>
        (fields? steps inside).map fun (fields, after) =>
          (.object (fields.foldl (fun all (key, value) => setField all key value) []), after)
    | c :: rest =>
      word? "null" .null (c :: rest) <|> word? "true" (.bool true) (c :: rest) <|>
        word? "false" (.bool false) (c :: rest) <|> number? (c :: rest)

/-- The items of an array up to its closing bracket. -/
def items? : Nat → List Char → Option (List Json × List Char)
  | 0, _ => none
  | steps + 1, text =>
    match value? steps text with
    | none => none
    | some (item, rest) =>
      match skipGap rest with
      | ']' :: after => some ([item], after)
      | ',' :: next => (items? steps next).map fun (items, after) => (item :: items, after)
      | _ => none

/-- The fields of an object up to its closing brace. -/
def fields? : Nat → List Char → Option (List (String × Json) × List Char)
  | 0, _ => none
  | steps + 1, text =>
    match skipGap text with
    | '"' :: rest =>
      match stringBody rest with
      | none => none
      | some (key, afterKey) =>
        match skipGap afterKey with
        | ':' :: afterColon =>
          match value? steps afterColon with
          | none => none
          | some (value, rest) =>
            match skipGap rest with
            | '\x7d' :: after => some ([(key, value)], after)
            | ',' :: next =>
              (fields? steps next).map fun (fields, after) => ((key, value) :: fields, after)
            | _ => none
        | _ => none
    | _ => none

end

/-- Reads a text that is one JSON value. Of two fields with one key the later
    value counts. Each character needs at most two steps. -/
def parse? (text : String) : Option Json :=
  match value? (2 * text.length + 2) text.toList with
  | some (value, rest) => if (skipGap rest).isEmpty then some value else none
  | none => none

end StaticPages.Json
