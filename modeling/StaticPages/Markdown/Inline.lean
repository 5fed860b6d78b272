import StaticPages.Markdown.Marks
import StaticPages.Markdown.Part
import StaticPages.Url.Bare

namespace StaticPages.Markdown.Inline

/-- How far running text is read. Items and pending text are kept last first.
    `links` counts the links that are open. -/
structure Progress where
  items : List Item := []
  pending : List Char := []
  links : Int := 0

namespace Progress

/-- Ends the pending text. -/
def flush (p : Progress) : Progress :=
  if p.pending.isEmpty then p
  else { p with items := .piece (.text p.pending.reverse) :: p.items, pending := [] }

def add (p : Progress) (item : Item) : Progress :=
  let p := p.flush
  { p with items := item :: p.items }

def addPieces (p : Progress) (pieces : List Piece) : Progress :=
  pieces.foldl (fun p piece => p.add (.piece piece)) p

/-- The end of a line. Two spaces before it make a break; spaces before it are
    not shown. -/
def endLine (p : Progress) : Progress :=
  match p.pending with
  | ' ' :: ' ' :: rest =>
    { p with pending := rest.dropWhile (· == ' ') }.add (.piece .hardBreak)
  | ' ' :: rest => { p with pending := rest }.add (.piece .softBreak)
  | _ => p.add (.piece .softBreak)

/-- Opens a link, whose text is read next. -/
def openLink (p : Progress) (target : Target) : Progress :=
  let p := p.add (.piece (.opening (.link target false)))
  { p with links := p.links + 1 }

def closeLink (p : Progress) (target : Target) : Progress :=
  let p := p.add (.piece (.closing (.link target false)))
  { p with links := p.links - 1 }

def addTag (p : Progress) (tag : List Char) : Progress :=
  let p := p.add (.piece (.html tag))
  if Tag.opensLink tag then { p with links := p.links + 1 }
  else if Tag.closesLink tag then { p with links := p.links - 1 }
  else p

end Progress

/-- The scheme at the end of the pending text, which is kept last first. -/
def pendingScheme? (pending : List Char) : Option (List Char) :=
  let scheme :=
    (pending.takeWhile fun c => c.isAlphanum || c == '.' || c == '+' || c == '-').reverse
  if scheme.head?.any Char.isAlpha then some scheme else none

/-- The address that stands bare in running text around a colon, without its scheme,
    and how it is linked and shown. Asterisks at its end are not part of it. -/
def bareAddress? (pending rest : List Char) :
    Option (List Char × List Char × List Char × List Char) := do
  let scheme ← pendingScheme? pending
  let length ← if Url.isBareScheme scheme then Url.bareLength? rest else none
  let tail := ((rest.take length).reverse.dropWhile (· == '*')).reverse
  let address := scheme ++ ':' :: tail
  let url := Url.normalize address
  if Url.isSafe url then pure (scheme, tail, url, Url.display address) else none

/-- A link whose text is being read: its target, the characters of the text that
    are left, and those between the text and what follows the link. -/
structure OpenLink where
  target : Target
  left : Nat
  after : Nat

/-- Reads running text part by part. `skip` characters are already dealt with, and
    `before` is the character in front of the text. `shown` turns the label of an
    image into text. -/
def read (options : Options) (shown : List Char → List Char) (p : Progress) (skip : Nat)
    (link : Option OpenLink) (before : Option Char) : List Char → List Part → Progress
  | [], _ => p.flush
  | _, [] => p.flush
  | c :: rest, part :: parts =>
    let go (p : Progress) (size : Nat) :=
      read options shown p (size - 1) (link.map fun l => { l with left := l.left - 1 }) (some c)
        rest parts
    match decide (0 < skip), link with
    | true, _ => go p skip
    | false, some ⟨target, 0, after⟩ =>
      read options shown (p.closeLink target) (after - 1) none (some c) rest parts
    | false, _ =>
      let keep (_ : Unit) := go { p with pending := c :: p.pending } 1
      match part with
      | .ticks size => go { p with pending := List.replicate size c ++ p.pending } size
      | .lineEnd size => go p.endLine size
      | .hardBreak size => go (p.add (.piece .hardBreak)) size
      | .literal chars size => go (p.add (.piece (.literal chars))) size
      | .code chars size => go (p.add (.piece (.code chars))) size
      | .html size => go (p.addTag (c :: rest.take (size - 1))) size
      | .address url text size => go (p.addPieces (Piece.automaticLink url text)) size
      | .image target label size =>
        let source := (rest.drop 1).take label
        go (p.add (.piece (.image target source (shown source)))) size
      | .link target label size =>
        read options shown (p.openLink target) 0 (some ⟨target, label, size - label - 1⟩) (some c)
          rest parts
      | .plain =>
        let run := ((c :: rest).takeWhile (· == c)).length
        if c == '*' || c == '_' || (c == '~' && 2 ≤ run) then
          let ends := link.any fun l => l.left == run
          let after := if ends then none else rest[run - 1]?
          go (p.add (.marks (Marks.ofRun c run before after))) run
        else if c == ':' && options.linkify && p.links ≤ 0 then
          match bareAddress? p.pending rest with
          | some (scheme, tail, url, text) =>
            let p := { p with pending := p.pending.drop scheme.length }
            go (p.addPieces (Piece.automaticLink url text)) (tail.length + 1)
          | none => keep ()
        else keep ()

/-- The pieces of running text. `depth` bounds how deep images are nested in the
    labels of images. -/
def pieces (options : Options) (definitions : List Definition) : Nat → List Char → List Piece
  | 0, text => [.text text]
  | depth + 1, text =>
    let shown (label : List Char) := Piece.plainText (pieces options definitions depth label)
    let found := read options shown {} 0 none none text (Part.all options definitions text)
    Piece.joinAll (Item.resolve [] [] found.items.reverse)

/-- The pieces of a whole paragraph, heading or item. -/
def ofChars (options : Options) (definitions : List Definition) (text : List Char) : List Piece :=
  pieces options definitions (text.length + 1) text

end StaticPages.Markdown.Inline
