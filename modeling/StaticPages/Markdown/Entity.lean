import StaticPages.Markdown.Basic
import StaticPages.Markdown.Entity.Names
import StaticPages.Text.Hex

namespace StaticPages.Markdown.Entity

/-- The text that an entry of the table stands for. -/
def entryText (code : String) : List Char :=
  (code.splitOn "+").map fun digits => Char.ofNat (Text.ofHexDigits digits.toList)

/-- The names with their texts. -/
def names : List (String × List Char) :=
  (nameTable.flatMap (·.splitOn " ")).filterMap fun entry =>
    match entry.splitOn "=" with
    | [name, code] => some (name, entryText code)
    | _ => none

/-- The names that need no semicolon, with their texts. -/
def shortNames : List (String × List Char) :=
  (shortNameTable.flatMap (·.splitOn " ")).filterMap fun name =>
    (names.lookup name).map (name, ·)

/-- The text of a name, which may begin with a shorter name that needs no semicolon. -/
def named? (name : List Char) : Option (List Char) :=
  match names.lookup (String.ofList name) with
  | some text => some text
  | none =>
    let starts := shortNames.filter fun (short, _) => short.toList.isPrefixOf name
    let longest := starts.foldl (fun (best : Option (String × List Char)) entry =>
      if best.all fun b => b.1.length < entry.1.length then some entry else best) none
    longest.map fun (short, text) => text ++ name.drop short.length ++ [';']

/-- The code points that a number may stand for: characters other than controls
    and those that are never assigned. -/
def isAllowed (n : Nat) : Bool :=
  decide n.isValidChar && !(0xFDD0 ≤ n && n ≤ 0xFDEF) && n % 0x10000 < 0xFFFE &&
    !(n ≤ 8) && n != 0xB && !(0xE ≤ n && n ≤ 0x1F) && !(0x7F ≤ n && n ≤ 0x9F)

/-- The number in a text between `&#` and a semicolon, with at most so many digits
    of either base. -/
def number? (hexDigits decimalDigits : Nat) (body : List Char) : Option Nat :=
  match body with
  | c :: digits =>
    if c == 'x' || c == 'X' then
      if !digits.isEmpty && digits.length ≤ hexDigits && digits.all Text.isHexDigit then
        some (Text.ofHexDigits digits)
      else none
    else if body.length ≤ decimalDigits && body.all Char.isDigit then
      some (body.foldl (fun n d => 10 * n + (d.toNat - 48)) 0)
    else none
  | [] => none

/-- What an entity in running text stands for, and its length. -/
def inText? : List Char → Option (List Char × Nat)
  | '&' :: '#' :: rest => do
    let body := rest.takeWhile Char.isAlphanum
    if rest[body.length]? != some ';' then none
    else
      let n ← number? 6 7 body
      pure ([if isAllowed n then Char.ofNat n else '\uFFFD'], body.length + 3)
  | '&' :: rest => do
    let name := rest.takeWhile Char.isAlphanum
    if rest[name.length]? != some ';' || !name.head?.any Char.isAlpha || name.length < 2 ||
        32 < name.length then none
    else
      let text ← named? name
      pure (text, name.length + 2)
  | _ => none

/-- What an entity in the target or the title of a link stands for, and its length.
    A number that stands for no allowed character is none. -/
def inTarget? : List Char → Option (List Char × Nat)
  | '&' :: '#' :: rest => do
    let body := rest.takeWhile Char.isAlphanum
    if rest[body.length]? != some ';' then none
    else
      let n ← number? 8 8 body
      if isAllowed n then pure ([Char.ofNat n], body.length + 3) else none
  | text => inText? text

/-- A target or a title with its escapes and entities read. `skip` counts
    characters that are already dealt with. -/
def unescape (skip : Nat) : List Char → List Char
  | [] => []
  | c :: rest =>
    if 0 < skip then unescape (skip - 1) rest
    else if c == '\\' && rest.head?.any isMark then rest.take 1 ++ unescape 1 rest
    else
      match inTarget? (c :: rest) with
      | some (text, length) => text ++ unescape (length - 1) rest
      | none => c :: unescape 0 rest

end StaticPages.Markdown.Entity
