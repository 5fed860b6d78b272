import StaticPages.Source.Position
import StaticPages.Text.Space

namespace StaticPages

/-- A place in a source text together with what lies ahead of it. Parsers never
    look back, so the text already passed is not kept. -/
structure Cursor where
  ahead : List Char
  position : Position
  deriving DecidableEq, Repr

namespace Cursor

def ofString (text : String) : Cursor :=
  ⟨text.toList, Position.start⟩

def atEnd (c : Cursor) : Bool :=
  c.ahead.isEmpty

/-- The text that is not yet consumed. -/
def fragment (c : Cursor) : String :=
  String.ofList c.ahead

/-- The character under the cursor. -/
def head? (c : Cursor) : Option Char :=
  c.ahead.head?

/-- The cursor after the first `n` characters, or at the end. -/
def drop (n : Nat) (c : Cursor) : Cursor :=
  ⟨c.ahead.drop n, c.position.after (c.ahead.take n)⟩

/-- The cursor after the characters that satisfy `p`. -/
def skipWhile (p : Char → Bool) (c : Cursor) : Cursor :=
  ⟨c.ahead.dropWhile p, c.position.after (c.ahead.takeWhile p)⟩

/-- The characters that satisfy `p`, and the cursor after them. -/
def takeWhile (p : Char → Bool) (c : Cursor) : String × Cursor :=
  (String.ofList (c.ahead.takeWhile p), c.skipWhile p)

/-- Passes over spaces and tabs, never over a line ending. -/
def skipBlanks : Cursor → Cursor :=
  skipWhile Text.isBlank

/-- Passes over white space, line endings included. -/
def skipSpace : Cursor → Cursor :=
  skipWhile Text.isSpace

def startsWith (token : String) (c : Cursor) : Bool :=
  token.toList.isPrefixOf c.ahead

/-- The cursor after `token`, if the token stands at the cursor. -/
def after? (token : String) (c : Cursor) : Option Cursor :=
  if c.startsWith token then some (c.drop token.toList.length) else none

/-- Consumes `count` code units, or what is left. A count that ends within a character
    leaves the other half of it ahead. -/
def advance (count : Nat) (c : Cursor) : Cursor :=
  ⟨Text.dropUnits count c.ahead, c.position.after (Text.takeUnits count c.ahead)⟩

/-- Moves to an offset at or after the current one. -/
def seek (offset : Nat) (c : Cursor) : Cursor :=
  c.advance (offset - c.position.offset)

/-- The code unit that stands `index` units ahead. -/
def peek (index : Nat) (c : Cursor) : Option Char :=
  (Text.takeUnits 1 (Text.dropUnits index c.ahead)).head?

/-- The offset of the next `needle` at or after the cursor. -/
def indexOf (needle : String) (c : Cursor) : Option Nat :=
  search c.ahead c.position.offset
where
  search : List Char → Nat → Option Nat
    | [], offset => if needle.isEmpty then some offset else none
    | a :: rest, offset =>
      if needle.toList.isPrefixOf (a :: rest) then some offset
      else search rest (offset + Text.width a)

/-- The text from a cursor up to a later one. -/
def sliceTo (c later : Cursor) : String :=
  String.ofList (Text.takeUnits (later.position.offset - c.position.offset) c.ahead)

def spanTo (c later : Cursor) : Span :=
  ⟨c.position, later.position⟩

/-- A run of characters of one class, with the least number that counts as a match. -/
structure Run where
  accepts : Char → Bool
  least : Nat

namespace Run

def digits : Run := ⟨Char.isDigit, 1⟩

def letters : Run := ⟨Char.isAlpha, 1⟩

def blanks : Run := ⟨Text.isBlank, 0⟩

end Run

/-- The longest run at the cursor, if it is long enough. -/
def match? (run : Run) (c : Cursor) : Option String :=
  let found := c.ahead.takeWhile run.accepts
  if run.least ≤ found.length then some (String.ofList found) else none

/-- `d` is `c` after some of the text ahead of it. -/
def Reaches (c d : Cursor) : Prop :=
  ∃ taken, c.ahead = taken ++ d.ahead ∧ d.position = c.position.after taken

namespace Reaches

theorem refl (c : Cursor) : c.Reaches c :=
  ⟨[], rfl, rfl⟩

theorem trans {a b c : Cursor} (hab : a.Reaches b) (hbc : b.Reaches c) : a.Reaches c := by
  obtain ⟨xs, hxs, hx⟩ := hab
  obtain ⟨ys, hys, hy⟩ := hbc
  exact ⟨xs ++ ys, by simp [hxs, hys], by rw [hy, hx, Position.after_append]⟩

theorem length_le {c d : Cursor} (h : c.Reaches d) : d.ahead.length ≤ c.ahead.length := by
  obtain ⟨taken, htaken, _⟩ := h
  simp [htaken]

end Reaches

theorem reaches_drop (n : Nat) (c : Cursor) : c.Reaches (c.drop n) :=
  ⟨c.ahead.take n, (List.take_append_drop n c.ahead).symm, rfl⟩

theorem reaches_skipWhile (p : Char → Bool) (c : Cursor) : c.Reaches (c.skipWhile p) :=
  ⟨c.ahead.takeWhile p, List.takeWhile_append_dropWhile.symm, rfl⟩

theorem reaches_skipBlanks (c : Cursor) : c.Reaches c.skipBlanks :=
  reaches_skipWhile _ c

theorem reaches_skipSpace (c : Cursor) : c.Reaches c.skipSpace :=
  reaches_skipWhile _ c

theorem reaches_after? {token : String} {c d : Cursor} (h : c.after? token = some d) :
    c.Reaches d := by
  unfold after? at h
  split at h
  · cases h
    exact reaches_drop _ c
  · cases h

/-- A token that is not empty takes something away. -/
theorem after?_length_lt {token : String} {c d : Cursor} (htoken : token.toList ≠ [])
    (h : c.after? token = some d) : d.ahead.length < c.ahead.length := by
  unfold after? at h
  split at h
  · next hstart =>
    cases h
    have hle := (List.isPrefixOf_iff_prefix.mp hstart).length_le
    have hpos := List.length_pos_iff.mpr htoken
    simp only [drop, List.length_drop]
    omega
  · cases h

theorem skipSpace_after?_length_lt {token : String} {c d : Cursor} (htoken : token.toList ≠ [])
    (h : c.skipSpace.after? token = some d) : d.ahead.length < c.ahead.length := by
  have hspace := (reaches_skipSpace c).length_le
  have htake := after?_length_lt htoken h
  omega

end Cursor

end StaticPages
