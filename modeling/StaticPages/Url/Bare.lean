import StaticPages.Unicode.Punctuation
import StaticPages.Url.Basic

namespace StaticPages.Url

/-- Characters that never belong to an address in running text. -/
def isGap (c : Char) : Bool :=
  Unicode.isSeparator c || Unicode.isControl c

/-- Characters at which an address may end. -/
def isBoundary (c : Char) : Bool :=
  isGap c || Unicode.isPunctuation c

/-- Signs that set an address apart although they are no punctuation. -/
def isFence (c : Char) : Bool :=
  c == '<' || c == '>' || c == '｜'

/-- The letters of host names in running text. -/
def isHostLetter (c : Char) : Bool :=
  0x10000 ≤ c.toNat || !(isFence c || isBoundary c)

/-- Whether a host in running text may end before a text. -/
def mayFollowHost : List Char → Bool
  | [] => true
  | c :: rest =>
    (isFence c || isBoundary c) && c != '-' && c != '_' &&
      !(c == ':' && rest.head?.any Char.isDigit) &&
      !(c == '.' && rest.head?.any fun d => d == '-' || !isBoundary d)

/-- The characters of labels that are registered in ASCII. -/
def isAsciiLabel (label : List Char) : Bool :=
  let label := label.map Char.toLower
  "xn--".toList.isPrefixOf label && 5 ≤ label.length && label.length ≤ 63 &&
    label.all fun c => c.isAlphanum || c == '-'

/-- Whether the text between two dots is a label of a host. -/
def isBareLabel (label : List Char) : Bool :=
  isAsciiLabel label || (label.head?.any isHostLetter && label.getLast?.any isHostLetter &&
    label.length ≤ 63)

/-- The labels of the host that some texts between dots begin with. -/
def hostLabels? : List (List Char) → Option (List (List Char))
  | [] => none
  | label :: rest =>
    if !isBareLabel label then none
    else if rest.head?.any fun next => next.head?.any isHostLetter then
      (hostLabels? rest).map (label :: ·)
    else some [label]

/-- The texts between dots at the start of a text, as far as hosts may reach. -/
def dotted (text : List Char) : List (List Char) :=
  split '.' (text.takeWhile fun c => isHostLetter c || c == '-' || c == '.')

/-- Whether some digits are the number of a port. -/
def isPort (digits : List Char) : Bool :=
  digits.length ≤ 4 ||
    (digits.length == 5 && digits.head? != some '0' &&
      digits.foldl (fun n d => 10 * n + (d.toNat - 48)) 0 ≤ 65535)

/-- The length of a port with its colon, which may be missing. -/
def portLength? : List Char → Option Nat
  | ':' :: rest =>
    let digits := rest.takeWhile Char.isDigit
    if digits.isEmpty then some 0 else if isPort digits then some (digits.length + 1) else none
  | _ => some 0

/-- The length of a text in brackets or quotes, which holds no gap. -/
def enclosedLength (close : Char) (least : Nat) (text : List Char) : Nat :=
  let inside := (text.drop 1).takeWhile fun c => !isGap c && c != close
  if least ≤ inside.length && text[inside.length + 1]? == some close then inside.length + 2 else 0

/-- The number of characters by which a path goes on, or zero. Punctuation belongs
    to it if more of the path follows. -/
def pathStep (text : List Char) : Nat :=
  let followed (n : Nat) (extra : Char → Bool) :=
    if (text[n]?).any fun c => !isGap c && !extra c then n else 0
  match text with
  | [] => 0
  | c :: rest =>
    let run := (text.takeWhile (· == c)).length
    if isGap c || isFence c then 0
    else if c == '[' then enclosedLength ']' 0 text
    else if c == '(' then enclosedLength ')' 0 text
    else if c == '\x7b' then enclosedLength '\x7d' 0 text
    else if c == '"' then enclosedLength '"' 1 text
    else if c == '\'' then
      let quoted := enclosedLength '\'' 1 text
      if 0 < quoted then quoted
      else if rest.head?.any fun d => isHostLetter d || d == '-' then 1 else 0
    else if c == '.' then
      if 2 ≤ run then
        if (text[run]?).any fun d => d.isAlphanum || d == '%' || d == '/' || d == '&' then run + 1
        else 0
      else followed 1 fun d => d == '.'
    else if c == '-' then run
    else if c == ',' || c == ';' then followed 1 fun _ => false
    else if c == '!' then followed run fun _ => false
    else if c == '?' then followed 1 fun d => d == '?'
    else if c == ']' || c == ')' || c == '\x7d' then 0
    else 1

/-- The length of the steps of a path. `skip` characters are already dealt with. -/
def pathSteps (skip : Nat) : List Char → Nat
  | [] => 0
  | c :: rest =>
    if 0 < skip then pathSteps (skip - 1) rest + 1
    else
      match pathStep (c :: rest) with
      | 0 => 0
      | n + 1 => pathSteps n rest + 1

/-- The length of a path, query or fragment in running text. -/
def pathLength : List Char → Nat
  | c :: rest =>
    if endsAuthority c then
      let steps := pathSteps 0 rest
      if 0 < steps then steps + 1 else if c == '/' then 1 else 0
    else 0
  | [] => 0

/-- The length of a user with its `@`, which may be missing. -/
def userLength (text : List Char) : Nat :=
  let user := text.takeWhile fun c => !isGap c && !"@/[]()".toList.contains c
  if !user.isEmpty && text[user.length]? == some '@' then user.length + 1 else 0

/-- The length of a port and a path after a host, if a host may end there. -/
def afterHost? (text : List Char) : Option Nat := do
  let port ← portLength? text
  let after := text.drop port
  if mayFollowHost after then pure (port + pathLength after) else none

/-- The length of a host with a port and a path. -/
def hostLength? (text : List Char) : Option Nat := do
  let labels ← hostLabels? (dotted text)
  let host := (join '.' labels).length
  let more ← afterHost? (text.drop host)
  pure (host + more)

/-- The length of an address in running text after its scheme and colon. -/
def bareLength? : List Char → Option Nat
  | '/' :: '/' :: rest =>
    let user := userLength rest
    let found :=
      if 0 < user then
        ((hostLength? (rest.drop user)).map (user + ·)).or (hostLength? rest)
      else hostLength? rest
    found.map (· + 2)
  | _ => none

/-- The schemes of addresses that stand in running text. -/
def bareSchemes : List String :=
  ["http", "https", "ftp"]

def isBareScheme (scheme : List Char) : Bool :=
  bareSchemes.contains (String.ofList (scheme.map Char.toLower))

end StaticPages.Url
