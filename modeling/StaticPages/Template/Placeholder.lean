import StaticPages.Filter.Parser
import StaticPages.RenderError

namespace StaticPages

/-- A variable with its filters, and the stretch of the template from the opening
    braces to the closing ones. -/
structure Placeholder where
  name : String
  filters : List Filter
  selection : Span
  deriving DecidableEq, Repr

namespace Placeholder

open Token

def opening : String := "\x7b\x7b"

def closing : String := "\x7d\x7d"

/-- The placeholder at the cursor. -/
def parse : Parser Placeholder := fun c =>
  match c.after? opening with
  | none => c.refuse .noOpening
  | some opened =>
    match variableName opened.skipSpace with
    | .error f => .error f
    | .ok (name, named) =>
      match Filter.pipeline named with
      | .error f => .error f
      | .ok (filters, filtered) =>
        match filtered.skipSpace.after? closing with
        | none => filtered.skipSpace.refuse (.noClosing name)
        | some rest => .ok (⟨name, filters, c.spanTo rest⟩, rest)

/-- Whether braces stand at the cursor that the sigil follows. Other braces are
    plain text of the template. -/
def opens (c : Cursor) : Bool :=
  match c.after? opening with
  | none => false
  | some opened => opened.skipSpace.startsWith sigil

theorem parse_reaches {c d : Cursor} {p : Placeholder} (h : parse c = .ok (p, d)) :
    c.Reaches d := by
  unfold parse at h
  split at h
  · cases h
  · next opened hopened =>
    split at h
    · cases h
    · next name named hnamed =>
      split at h
      · cases h
      · next filters filtered hfiltered =>
        split at h
        · cases h
        · next rest hrest =>
          cases h
          exact (Cursor.reaches_after? hopened).trans ((Cursor.reaches_skipSpace opened).trans
            ((variableName_reaches hnamed).trans ((Filter.pipeline_reaches hfiltered).trans
              ((Cursor.reaches_skipSpace filtered).trans (Cursor.reaches_after? hrest)))))

theorem parse_length_lt {c d : Cursor} {p : Placeholder} (h : parse c = .ok (p, d)) :
    d.ahead.length < c.ahead.length := by
  unfold parse at h
  split at h
  · cases h
  · next opened hopened =>
    split at h
    · cases h
    · next name named hnamed =>
      split at h
      · cases h
      · next filters filtered hfiltered =>
        split at h
        · cases h
        · next rest hrest =>
          cases h
          have hopen := Cursor.after?_length_lt (by decide) hopened
          have hlater := ((Cursor.reaches_skipSpace opened).trans
            ((variableName_reaches hnamed).trans ((Filter.pipeline_reaches hfiltered).trans
              ((Cursor.reaches_skipSpace filtered).trans (Cursor.reaches_after? hrest))))).length_le
          omega

/-- The placeholders from the cursor on, in the order of the text. -/
def scan (c : Cursor) : Except Failure (List Placeholder) :=
  if _hend : c.ahead = [] then .ok []
  else if opens c then
    match _hparse : parse c with
    | .error f => .error f
    | .ok (found, rest) =>
      match scan rest with
      | .ok later => .ok (found :: later)
      | .error f => .error f
  else scan (c.drop 1)
termination_by c.ahead.length
decreasing_by
  · exact parse_length_lt _hparse
  · have hpos := List.length_pos_iff.mpr _hend
    simp only [Cursor.drop, List.length_drop]
    omega

/-- The placeholders from the cursor on, the last one first: replacing them in
    this order never moves one that is still to be replaced. -/
def locate (c : Cursor) : Except RenderError (List Placeholder) :=
  match scan c with
  | .ok found => .ok found.reverse
  | .error f => .error (.ofFailure f .malformedPlaceholder)

end Placeholder

end StaticPages
