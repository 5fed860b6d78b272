import StaticPages.Text.Space
import StaticPages.Text.Units
import StaticPages.Url.Percent
import StaticPages.Url.Punycode

namespace StaticPages

/-- An address in its parts, as they are written. Path, query and fragment stay
    together. -/
structure Url where
  scheme : List Char
  slashes : Bool
  user : List Char
  host : List Char
  port : List Char
  path : List Char
  deriving DecidableEq, Repr

namespace Url

/-- The scheme at the start of an address, its colon included, and what follows. -/
def splitScheme (text : List Char) : List Char × List Char :=
  let name := text.takeWhile fun c => c.isAlphanum || c == '.' || c == '+' || c == '-'
  match text.drop name.length with
  | ':' :: rest => if name.isEmpty then ([], text) else (name ++ [':'], rest)
  | _ => ([], text)

/-- The schemes whose addresses have a host only after two slashes. -/
def slashed : List String :=
  ["http:", "https:", "ftp:", "gopher:", "file:"]

/-- A text before and after the last of some characters, if there is one. -/
def splitLast? (sep : Char) (text : List Char) : Option (List Char × List Char) :=
  let after := (text.reverse.takeWhile (· != sep)).reverse
  if after.length < text.length then some (text.take (text.length - after.length - 1), after)
  else none

def endsAuthority (c : Char) : Bool :=
  c == '/' || c == '?' || c == '#'

/-- The characters that no host holds. -/
def endsHost (c : Char) : Bool :=
  endsAuthority c || "%;'\x7b\x7d|\\^\x60<>\" \r\n\t".toList.contains c

/-- The user before a host, and what follows. -/
def splitUser (text : List Char) : List Char × List Char :=
  let authority := text.takeWhile fun c => !endsAuthority c
  match splitLast? '@' authority with
  | some (user, host) => (user, host ++ text.drop authority.length)
  | none => ([], text)

/-- A host without its port, and the port. -/
def splitPort (text : List Char) : List Char × List Char :=
  match splitLast? ':' text with
  | some (host, port) => if port.all Char.isDigit then (host, port) else (text, [])
  | none => (text, [])

/-- The pieces between separators. -/
def split (sep : Char) : List Char → List (List Char)
  | [] => [[]]
  | c :: rest =>
    if c == sep then [] :: split sep rest
    else
      match split sep rest with
      | [] => [[c]]
      | piece :: more => (c :: piece) :: more

def join (sep : Char) (pieces : List (List Char)) : List Char :=
  [sep].intercalate pieces

def isLabelChar (c : Char) : Bool :=
  c.isAlphanum || c == '+' || c == '_' || c == '-'

/-- Whether a piece between the dots of a host may stand there. -/
def isLabel (label : List Char) : Bool :=
  label.all (fun c => isLabelChar c || 0x80 ≤ c.toNat) && Text.size label ≤ 63

/-- The labels of a host up to the first that may not stand there, and what is
    left of the text. -/
def splitLabels : List (List Char) → List (List Char) × List (List Char)
  | [] => ([], [])
  | label :: rest =>
    if isLabel label then
      let (labels, after) := splitLabels rest
      (label :: labels, after)
    else
      let start := (label.takeWhile isLabelChar).take 63
      ([start], label.drop start.length :: rest)

/-- The host, the port and the path in what follows a user. A host in brackets is
    taken out of them. -/
def splitHost (text : List Char) : List Char × List Char × List Char :=
  let written := text.takeWhile fun c => !endsHost c
  let written := if written.getLast? == some ':' then written.dropLast else written
  let path := text.drop written.length
  let (host, port) := splitPort written
  if host.head? == some '[' && host.getLast? == some ']' then
    ((host.drop 1).dropLast, port, path)
  else
    let (labels, after) := splitLabels (split '.' host)
    let host := join '.' labels
    (if Text.size host ≤ 255 then host else [], port, join '.' after ++ path)

def ofChars (text : List Char) : Url :=
  let (scheme, rest) := splitScheme (Text.trimChars text)
  let slashes := ['/', '/'].isPrefixOf rest
  let name := String.ofList scheme
  if name == "javascript:" || (!slashes && (scheme.isEmpty || slashed.contains name)) then
    ⟨scheme, false, [], [], [], rest⟩
  else
    let (user, rest) := splitUser (if slashes then rest.drop 2 else rest)
    let (host, port, path) := splitHost rest
    ⟨scheme, slashes, user, host, port, path⟩

def toChars (url : Url) : List Char :=
  url.scheme ++ (if url.slashes then ['/', '/'] else []) ++
    (if url.user.isEmpty then [] else url.user ++ ['@']) ++
    (if url.host.contains ':' then '[' :: url.host ++ [']'] else url.host) ++
    (if url.port.isEmpty then [] else ':' :: url.port) ++ url.path

/-- Whether the host of an address is a domain name, as far as the scheme tells. -/
def hasDomain (url : Url) : Bool :=
  url.scheme.isEmpty || ["http:", "https:", "mailto:"].contains (String.ofList url.scheme)

/-- The labels of a domain name. Full stops of other scripts count. -/
def labels (host : List Char) : List (List Char) :=
  split '.' (host.map fun c => if c == '。' || c == '．' || c == '｡' then '.' else c)

/-- A label as it is registered. -/
def asciiLabel (label : List Char) : List Char :=
  if label.all fun c => c.toNat < 0x80 then label
  else ['x', 'n', '-', '-'] ++ Punycode.encode label

/-- A label as it is shown. -/
def shownLabel? (label : List Char) : Option (List Char) :=
  match label with
  | 'x' :: 'n' :: '-' :: '-' :: code => Punycode.decode? (code.map Char.toLower)
  | _ => some label

/-- An address as links hold it: its domain name in ASCII, and all that has no
    place in an address escaped. -/
def normalize (text : List Char) : List Char :=
  let url := ofChars text
  encode (if url.hasDomain then
    { url with host := join '.' ((labels url.host).map asciiLabel) } else url).toChars

/-- An address as readers see it. -/
def display (text : List Char) : List Char :=
  let url := ofChars text
  let shown :=
    if url.hasDomain then ((labels url.host).mapM shownLabel?).map (join '.') else none
  decode { url with host := shown.getD url.host }.toChars

/-- The schemes whose addresses can run code or read files. -/
def dangerous : List String :=
  ["vbscript:", "javascript:", "file:", "data:"]

/-- Images in data addresses are harmless. -/
def harmless : List String :=
  ["data:image/gif;", "data:image/png;", "data:image/jpeg;", "data:image/webp;"]

/-- Whether a link may lead to an address. -/
def isSafe (address : List Char) : Bool :=
  let address := (Text.trimChars address).map Char.toLower
  let startsWith (start : String) := start.toList.isPrefixOf address
  !dangerous.any startsWith || harmless.any startsWith

end Url

end StaticPages
