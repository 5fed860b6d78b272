import StaticPages.Markdown.Tag
import StaticPages.Markdown.Target

namespace StaticPages.Markdown

/-- What begins at a place in running text, and how many characters it takes.
    Marks, and all that is no more than itself, are plain. -/
inductive Part where
  | plain
  | ticks (size : Nat)
  | lineEnd (size : Nat)
  | hardBreak (size : Nat)
  | literal (chars : List Char) (size : Nat)
  | code (chars : List Char) (size : Nat)
  | html (size : Nat)
  | address (url shown : List Char) (size : Nat)
  | link (target : Target) (label size : Nat)
  | image (target : Target) (label size : Nat)
  deriving Repr

namespace Part

def size : Part → Nat
  | plain => 1
  | ticks size => size
  | lineEnd size => size
  | hardBreak size => size
  | literal _ size => size
  | code _ size => size
  | html size => size
  | address _ _ size => size
  | link _ _ size => size
  | image _ _ size => size

/-- The text before the first run of exactly `count` backticks. -/
def untilTicks? (count skip : Nat) : List Char → Option (List Char)
  | [] => none
  | c :: rest =>
    let run := ((c :: rest).takeWhile (· == '\x60')).length
    if 0 < skip then (untilTicks? count (skip - 1) rest).map (c :: ·)
    else if run = count then some []
    else (untilTicks? count (run - 1) rest).map (c :: ·)

/-- The text of a code span: one line, without a space that pads it on both sides. -/
def codeText (inside : List Char) : List Char :=
  let line := inside.map fun c => if c == '\n' then ' ' else c
  let breaks := line.any fun c => c == '\u2028' || c == '\u2029'
  if 3 ≤ line.length && line.head? == some ' ' && line.getLast? == some ' ' && !breaks then
    (line.drop 1).dropLast
  else line

def ofTicks (text : List Char) : Part :=
  let run := (text.takeWhile (· == '\x60')).length
  match untilTicks? run 0 (text.drop run) with
  | some inside => .code (codeText inside) (2 * run + inside.length)
  | none => .ticks run

def ofEscape : List Char → Part
  | [] => .plain
  | '\n' :: rest => .hardBreak ((rest.takeWhile Text.isBlank).length + 2)
  | c :: _ => .literal (if isMark c then [c] else ['\\', c]) 2

def isAddressChar (c : Char) : Bool :=
  0x20 < c.toNat

/-- Whether a text between `<` and `>` is an address with a scheme. -/
def isAddress (text : List Char) : Bool :=
  let scheme := text.takeWhile (· != ':')
  scheme.length < text.length && 2 ≤ scheme.length && scheme.length ≤ 32 &&
    scheme.head?.any Char.isAlpha &&
    (scheme.all fun c => c.isAlphanum || c == '+' || c == '.' || c == '-') &&
    text.all isAddressChar

/-- Whether a text is a label of the host of a mail address. -/
def isMailLabel (label : List Char) : Bool :=
  label.head?.any Char.isAlphanum && label.getLast?.any Char.isAlphanum && label.length ≤ 63 &&
    label.all fun c => c.isAlphanum || c == '-'

/-- Whether a text between `<` and `>` is a mail address. -/
def isMail (text : List Char) : Bool :=
  let name := text.takeWhile (· != '@')
  name.length < text.length && !name.isEmpty &&
    (name.all fun c => c.isAlphanum || ".!#$%&'*+/=?^_\x60\x7b|\x7d~-".toList.contains c) &&
    (Url.split '.' (text.drop (name.length + 1))).all isMailLabel

/-- The address that a text after a `<` gives, how it is shown, and its length. -/
def address? (rest : List Char) : Option (List Char × List Char × Nat) :=
  let text := rest.takeWhile fun c => c != '<' && c != '>'
  if rest[text.length]? != some '>' then none
  else
    let linked (address : List Char) :=
      let url := Url.normalize address
      if Url.isSafe url then some (url, Url.display text, text.length + 2) else none
    if isAddress text then linked text
    else if isMail text then linked ("mailto:".toList ++ text)
    else none

def ofAngle (options : Options) (rest : List Char) : Part :=
  match address? rest with
  | some (url, shown, size) => .address url shown size
  | none =>
    match if options.html then Tag.length? rest else none with
    | some length => .html (length + 1)
    | none => .plain

/-- The length of a text up to the bracket that closes it. `skip` characters belong
    to a part that is already seen. In the text of a link there is no other link. -/
def labelLength? (isLink : Bool) (depth skip : Nat) : List Char → List Part → Option Nat
  | c :: rest, part :: parts =>
    if 0 < skip then (labelLength? isLink depth (skip - 1) rest parts).map (· + 1)
    else if c == ']' then
      match depth with
      | 0 => some 0
      | depth + 1 => (labelLength? isLink depth 0 rest parts).map (· + 1)
    else if c == '[' then
      if part.size = 1 then (labelLength? isLink (depth + 1) 0 rest parts).map (· + 1)
      else if isLink then none
      else (labelLength? isLink depth (part.size - 1) rest parts).map (· + 1)
    else (labelLength? isLink depth (part.size - 1) rest parts).map (· + 1)
  | _, _ => none

/-- The target that a label refers to, and the length of what names it after the
    label: `skipped` characters and a label of its own, or nothing. -/
def reference? (definitions : List Definition) (label : List Char) (skipped : Nat)
    (text : List Char) (parts : List Part) : Option (Target × Nat) :=
  let own :=
    match text with
    | '[' :: rest => (labelLength? false 0 0 rest (parts.drop 1)).map fun n => (rest.take n, n + 2)
    | _ => none
  let (name, length) :=
    match own with
    | some (name, length) => (if name.isEmpty then label else name, skipped + length)
    | none => (label, 0)
  (lookup? definitions name).map (·, length)

/-- The target of a link with a label, and the length of what follows the label and
    belongs to it. -/
def targetAfter? (definitions : List Definition) (isLink : Bool) (label text : List Char)
    (parts : List Part) : Option (Target × Nat) :=
  match text with
  | '(' :: inside =>
    match Target.read inside with
    | .found target rest => some (target, text.length - rest.length)
    | .stopped rest =>
      if isLink then
        let skipped := text.length - rest.length + 1
        reference? definitions label skipped (text.drop skipped) (parts.drop skipped)
      else none
    | .ended => none
  | _ => reference? definitions label 0 text parts

/-- What a bracket begins. `parts` belong to the text after it. -/
def ofBracket (definitions : List Definition) (isLink : Bool) (rest : List Char)
    (parts : List Part) : Option (Target × Nat × Nat) := do
  let label ← labelLength? isLink 0 0 rest parts
  let (target, after) ← targetAfter? definitions isLink (rest.take label) (rest.drop (label + 1))
    (parts.drop (label + 1))
  pure (target, label, label + after + 2)

/-- The part that begins with a character, given the parts of the text after it. -/
def next (options : Options) (definitions : List Definition) (c : Char) (rest : List Char)
    (parts : List Part) : Part :=
  match c with
  | '\n' => .lineEnd ((rest.takeWhile Text.isBlank).length + 1)
  | '\\' => ofEscape rest
  | '\x60' => ofTicks (c :: rest)
  | '<' => ofAngle options rest
  | '&' =>
    match Entity.inText? (c :: rest) with
    | some (chars, size) => .literal chars size
    | none => .plain
  | '[' =>
    match ofBracket definitions true rest parts with
    | some (target, label, size) => .link target label size
    | none => .plain
  | '!' =>
    match rest with
    | '[' :: inside =>
      match ofBracket definitions false inside (parts.drop 1) with
      | some (target, label, size) => .image target label (size + 1)
      | none => .plain
    | _ => .plain
  | _ => .plain

/-- What begins at each character of a text. -/
def all (options : Options) (definitions : List Definition) : List Char → List Part
  | [] => []
  | c :: rest =>
    let parts := all options definitions rest
    next options definitions c rest parts :: parts

end Part

end StaticPages.Markdown
