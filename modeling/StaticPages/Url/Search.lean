import StaticPages.Text.Case
import StaticPages.Url.Bare

namespace StaticPages.Url

/-- What kind of address is found in running text. -/
inductive Kind where
  | schemed
  | host
  | mail
  deriving DecidableEq, Repr

/-- An address found in running text, as it stands there, and the text before it. -/
structure Found where
  kind : Kind
  before : List Char
  text : List Char
  deriving Repr

/-- The top-level domains that make a host out of a name with dots, apart from the
    two-letter ones. -/
def topLevel : List String :=
  ["biz", "com", "edu", "gov", "net", "org", "pro", "web", "xxx", "aero", "asia", "coop", "info",
    "museum", "name", "shop", "рф"]

/-- The second letters of the two-letter top-level domains, after their first one. -/
def countryCodes : List (Char × String) :=
  [('a', "cdefgilmnoqrstuwxz"), ('b', "abdefghijmnorstvwyz"), ('c', "acdfghiklmnoruvwxyz"),
    ('d', "ejkmoz"), ('e', "cegrstu"), ('f', "ijkmor"), ('g', "abdefghilmnpqrstuwy"),
    ('h', "kmnrtu"), ('i', "delmnoqrst"), ('j', "emop"), ('k', "eghimnprwyz"),
    ('l', "abcikrstuvy"), ('m', "acdeghklmnopqrstuvwxyz"), ('n', "acefgilopruz"), ('o', "m"),
    ('p', "aefghklmnrstwy"), ('q', "a"), ('r', "eosuw"), ('s', "abcdeghijklmnortuvxyz"),
    ('t', "cdfghjklmnortvwz"), ('u', "agksyz"), ('v', "aceginu"), ('w', "fs"), ('y', "et"),
    ('z', "amw")]

def isTopLevel (label : List Char) : Bool :=
  let label := label.map Char.toLower
  isAsciiLabel label || topLevel.contains (String.ofList (Text.lower label)) ||
    match label with
    | [a, b] => (countryCodes.lookup a).any fun seconds => seconds.toList.contains b
    | _ => false

/-- The length of a host whose labels pass a test, with what follows the host. -/
def namedHostLength? (accepts : List (List Char) → Bool) (after : List Char → Option Nat)
    (text : List Char) : Option Nat := do
  let labels ← hostLabels? (dotted text)
  let host := (join '.' labels).length
  if accepts labels then
    let more ← after (text.drop host)
    pure (host + more)
  else none

def hasTopLevel (labels : List (List Char)) : Bool :=
  2 ≤ labels.length && labels.getLast?.any isTopLevel

def isOctet (label : List Char) : Bool :=
  !label.isEmpty && label.length ≤ 3 && label.all Char.isDigit &&
    label.foldl (fun n d => 10 * n + (d.toNat - 48)) 0 ≤ 255

/-- Whether some labels are the host of an address that begins with two slashes. -/
def isSlashedHost (labels : List (List Char)) : Bool :=
  match labels with
  | [label] => String.ofList (label.map Char.toLower) == "localhost"
  | _ => labels.getLast?.any fun label => isAsciiLabel label || label.all isHostLetter

def endHost? (text : List Char) : Option Nat :=
  if mayFollowHost text then some 0 else none

def isMailNameChar (c : Char) : Bool :=
  c.isAlphanum || "-;:&=+$,._".toList.contains c

/-- The length of a mail address whose host passes a test. -/
def mailLength? (accepts : List (List Char) → Bool) (text : List Char) : Option Nat := do
  let name := text.takeWhile fun c => isMailNameChar c || c == '"'
  if !name.head?.any isMailNameChar || text[name.length]? != some '@' then none
  else
    let host ← namedHostLength? accepts endHost? (text.drop (name.length + 1))
    pure (name.length + 1 + host)

/-- The scheme of an address at the start of a text: its length, and the length of
    the address after it if it is one. Two slashes can stand for a scheme. -/
def schemeAt? (before : Option Char) (text : List Char) : Option (Nat × Option Nat) :=
  let name := text.takeWhile Char.isAlpha
  match text.drop name.length with
  | ':' :: rest =>
    if isBareScheme name then some (name.length + 1, bareLength? rest)
    else if String.ofList (name.map Char.toLower) == "mailto" then
      some (name.length + 1, mailLength? (fun _ => true) rest)
    else none
  | '/' :: '/' :: rest =>
    if !name.isEmpty then none
    else if before == some ':' || before == some '/' then some (2, none)
    else
      let host := namedHostLength? isSlashedHost afterHost?
      let user := userLength rest
      let withUser := if 0 < user then (host (rest.drop user)).map (user + ·) else none
      some (2, withUser.or (host rest))
  | _ => none

/-- Whether an address with a scheme may begin after a character. -/
def precedesScheme (c : Char) : Bool :=
  c != '_' && (isFence c || isBoundary c)

/-- The place and the length of the first address with a scheme, looked for from a
    place `index` on. `skip` characters are already dealt with. -/
def findScheme? (index skip : Nat) : List Char → Option (Nat × Nat)
  | [] => none
  | c :: rest =>
    if 0 < skip then findScheme? (index + 1) (skip - 1) rest
    else
      match if index = 0 then schemeAt? none (c :: rest) else none with
      | some (scheme, some length) => some (0, scheme + length)
      | some (scheme, none) => findScheme? (index + 1) (scheme - 1) rest
      | none =>
        match if precedesScheme c then schemeAt? (some c) rest else none with
        | some (scheme, some length) => some (index + 1, scheme + length)
        | some (scheme, none) => findScheme? (index + 1) scheme rest
        | none => findScheme? (index + 1) 0 rest

/-- The first place of a text from which a test holds. -/
def firstPlace? (test : List Char → Bool) : List Char → Option Nat
  | [] => none
  | c :: rest => if test (c :: rest) then some 0 else (firstPlace? test rest).map (· + 1)

/-- Whether there is a scheme anywhere in a text. -/
def hasScheme (text : List Char) : Bool :=
  (schemeAt? none text).isSome || (firstPlace? (fun
    | c :: rest => precedesScheme c && (schemeAt? (some c) rest).isSome
    | [] => false) text).isSome

/-- Whether a text begins with something that hosts without a scheme have. -/
def hintsAtHost (text : List Char) : Bool :=
  let startsWith (start : String) := start.toList.isPrefixOf ((text.take 9).map Char.toLower)
  startsWith "localhost" || startsWith "www." ||
    match text with
    | '.' :: rest =>
      let digits := rest.takeWhile Char.isDigit
      let label := rest.takeWhile fun c => isHostLetter c || c == '-'
      let ends (length : Nat) :=
        match rest.drop length with
        | [] => true
        | c :: _ => isBoundary c || c == '>'
      (1 ≤ digits.length && digits.length ≤ 3 && rest[digits.length]? == some '.') ||
        (isTopLevel label && ends label.length) ||
        (let before := label.takeWhile (· != '-')
         isTopLevel before && ends before.length)
    | _ => false

def isHostSign (c : Char) : Bool :=
  "$+<=>^\x60|｜".toList.contains c

/-- Whether a host without a scheme may begin after a character. -/
def precedesHost (c : Char) : Bool :=
  !".:/-_@".toList.contains c && (isHostSign c || isBoundary c)

/-- The length of a host without a scheme, with a port and a path. -/
def plainHostLength? (text : List Char) : Option Nat :=
  if text.head?.any isHostSign then none else namedHostLength? hasTopLevel afterHost? text

def precedesMail (c : Char) : Bool :=
  isFence c || c == '"' || c == '(' || isGap c

def plainMailLength? (text : List Char) : Option Nat :=
  mailLength? (fun labels => hasTopLevel labels || (labels.length == 4 && labels.all isOctet)) text

/-- The place and the length of the first address that a reader accepts, at the
    start of the text or after certain characters. -/
def findAfter? (precedes : Char → Bool) (length? : List Char → Option Nat) (index : Nat) :
    List Char → Option (Nat × Nat)
  | [] => none
  | c :: rest =>
    match if index = 0 then length? (c :: rest) else none with
    | some length => some (0, length)
    | none =>
      match if precedes c then length? rest else none with
      | some length => some (index + 1, length)
      | none => findAfter? precedes length? (index + 1) rest

/-- The kind, the place and the length of the first address in a text. -/
def findFirst? (text : List Char) : Option (Kind × Nat × Nat) :=
  let schemed := (findScheme? 0 0 text).map fun found => (Kind.schemed, found)
  let earlier (place : Nat) : Option (Kind × Nat × Nat) → Bool
    | none => true
    | some (_, start, _) => place < start
  let hosted :=
    if (firstPlace? hintsAtHost text).any fun place => earlier place schemed then
      match findAfter? precedesHost plainHostLength? 0 text with
      | some (start, length) =>
        if earlier start schemed then some (Kind.host, start, length) else schemed
      | none => schemed
    else schemed
  if text.contains '@' then
    match findAfter? precedesMail plainMailLength? 0 text with
    | some (start, length) =>
      let wins :=
        match hosted with
        | none => true
        | some (_, other, otherLength) =>
          start < other || (start == other && otherLength < length)
      if wins then some (.mail, start, length) else hosted
    | none => hosted
  else hosted

/-- All addresses in a text, each with the text since the one before it, and the text
    after the last. `steps` bounds their number. -/
def findAll (steps : Nat) (text : List Char) : List Found × List Char :=
  match steps with
  | 0 => ([], text)
  | steps + 1 =>
    match findFirst? text with
    | none => ([], text)
    | some (kind, start, length) =>
      let (found, last) := findAll steps (text.drop (start + length))
      (⟨kind, text.take start, (text.drop start).take length⟩ :: found, last)

/-- Whether a text can hold addresses at all. -/
def mayHoldAddress (text : List Char) : Bool :=
  hasScheme text || (firstPlace? hintsAtHost text).isSome || text.contains '@'

end StaticPages.Url
