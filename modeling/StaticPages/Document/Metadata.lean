import StaticPages.RenderError
import StaticPages.Source.Token

namespace StaticPages

/-- One `key = value` line of a metadata block. -/
structure Entry where
  key : String
  value : String
  deriving DecidableEq, Repr

namespace Metadata

open Token

/-- The three ways to enclose a block. -/
inductive Style where
  | colon
  | tag
  | processing
  deriving DecidableEq, Repr

/-- A token that opens or closes a block when it stands alone on its line. -/
structure Marker where
  token : String
  style : Style
  deriving DecidableEq, Repr

/-- The opening markers. A token comes before its own beginnings. -/
def openers : List Marker :=
  [⟨":meta", .colon⟩, ⟨"<meta>", .tag⟩, ⟨"<?meta", .processing⟩, ⟨"<?", .processing⟩]

def closers : List Marker :=
  [⟨":meta", .colon⟩, ⟨"</meta>", .tag⟩, ⟨"?>", .processing⟩]

/-- The line of a marker, if only blanks come before it and white space after it. -/
def Marker.line (m : Marker) (c : Cursor) : Option (Marker × Cursor) :=
  match c.skipBlanks.after? m.token with
  | none => none
  | some after =>
    let (line, rest) := restOfLine after
    if isEmptyLine line then some (m, rest) else none

def markerLine (markers : List Marker) (c : Cursor) : Option (Marker × Cursor) :=
  markers.findSome? fun m => m.line c

/-- The text after a comment mark, without white space at its end. -/
def comment : Parser String := fun c =>
  let start := c.skipBlanks
  match start.after? "//" <|> start.after? "#" with
  | none => c.refuse .noComment
  | some after =>
    let (line, rest) := restOfLine after.skipBlanks
    .ok (Text.trimEnd line, rest)

/-- What stands to the right of an equals sign: a quoted string alone on its
    line, or the line itself without white space at its end. -/
def value : Parser String := fun c =>
  if c.head? = some '"' then
    match quotedString c with
    | .error f => .error f
    | .ok (text, after) =>
      let (trailing, rest) := restOfLine after
      if isEmptyLine trailing then .ok (text, rest) else after.skipBlanks.refuse .textAfterQuoted
  else
    let (line, rest) := restOfLine c
    .ok (Text.trimEnd line, rest)

/-- `key = value`. The key may carry the sigil, which is dropped. -/
def entry : Parser Entry := fun c =>
  let start := c.skipBlanks
  match identifier ((start.after? sigil).getD start) with
  | .error f => .error f
  | .ok (key, named) =>
    match named.skipBlanks.after? "=" with
    | none => named.skipBlanks.refuse (.noEquals key)
    | some equals =>
      match value equals.skipBlanks with
      | .error f => .error f
      | .ok (text, rest) => .ok (⟨key, text⟩, rest)

/-- What a line of an open block can be. A quoted value lets an entry run over
    several lines. -/
inductive Item where
  | empty
  | closing (marker : Marker)
  | comment (text : String)
  | entry (entry : Entry)
  deriving DecidableEq, Repr

def item : Parser Item := fun c =>
  let (line, rest) := restOfLine c
  if isEmptyLine line then .ok (.empty, rest)
  else
    match markerLine closers c with
    | some (marker, rest) => .ok (.closing marker, rest)
    | none =>
      match comment c with
      | .ok (text, rest) => .ok (.comment text, rest)
      | .error _ =>
        match entry c with
        | .ok (found, rest) => .ok (.entry found, rest)
        | .error f => .error f

theorem Marker.line_reaches {m found : Marker} {c d : Cursor} (h : m.line c = some (found, d)) :
    c.Reaches d := by
  unfold Marker.line at h
  split at h
  · cases h
  · next after hafter =>
    dsimp only at h
    split at h
    · cases h
      exact (Cursor.reaches_skipBlanks c).trans
        ((Cursor.reaches_after? hafter).trans (restOfLine_reaches after))
    · cases h

theorem markerLine_reaches {markers : List Marker} {found : Marker} {c d : Cursor}
    (h : markerLine markers c = some (found, d)) : c.Reaches d := by
  obtain ⟨m, _, hm⟩ := List.exists_of_findSome?_eq_some h
  exact Marker.line_reaches hm

theorem Marker.line_length_lt {m found : Marker} {c d : Cursor} (htoken : m.token.toList ≠ [])
    (h : m.line c = some (found, d)) : d.ahead.length < c.ahead.length := by
  unfold Marker.line at h
  split at h
  · cases h
  · next after hafter =>
    dsimp only at h
    split at h
    · cases h
      have hblanks := (Cursor.reaches_skipBlanks c).length_le
      have htake := Cursor.after?_length_lt htoken hafter
      have hline := (restOfLine_reaches after).length_le
      omega
    · cases h

theorem comment_reaches {c d : Cursor} {text : String} (h : comment c = .ok (text, d)) :
    c.Reaches d := by
  unfold comment at h
  dsimp only at h
  split at h
  · cases h
  · next after hafter =>
    simp only [Except.ok.injEq, Prod.mk.injEq] at h
    obtain ⟨_, rfl⟩ := h
    have hstart : c.skipBlanks.Reaches after := by
      cases hslash : c.skipBlanks.after? "//" with
      | some found => simp [hslash] at hafter; exact hafter ▸ Cursor.reaches_after? hslash
      | none => simp [hslash] at hafter; exact Cursor.reaches_after? hafter
    exact (Cursor.reaches_skipBlanks c).trans
      (hstart.trans ((Cursor.reaches_skipBlanks after).trans (restOfLine_reaches _)))

theorem comment_length_lt {c d : Cursor} {text : String} (h : comment c = .ok (text, d)) :
    d.ahead.length < c.ahead.length := by
  unfold comment at h
  dsimp only at h
  split at h
  · cases h
  · next after hafter =>
    simp only [Except.ok.injEq, Prod.mk.injEq] at h
    obtain ⟨_, rfl⟩ := h
    have hstart : after.ahead.length < c.skipBlanks.ahead.length := by
      cases hslash : c.skipBlanks.after? "//" with
      | some found =>
        simp [hslash] at hafter
        exact hafter ▸ Cursor.after?_length_lt (by decide) hslash
      | none => simp [hslash] at hafter; exact Cursor.after?_length_lt (by decide) hafter
    have hblanks := (Cursor.reaches_skipBlanks c).length_le
    have hafterBlanks := (Cursor.reaches_skipBlanks after).length_le
    have hline := (restOfLine_reaches after.skipBlanks).length_le
    omega

theorem value_reaches {c d : Cursor} {text : String} (h : value c = .ok (text, d)) :
    c.Reaches d := by
  unfold value at h
  split at h
  · split at h
    · cases h
    · next found after hfound =>
      dsimp only at h
      split at h
      · cases h
        exact (quotedString_reaches hfound).trans (restOfLine_reaches after)
      · cases h
  · simp only [Except.ok.injEq, Prod.mk.injEq] at h
    obtain ⟨_, rfl⟩ := h
    exact restOfLine_reaches c

theorem reaches_afterSigil (c : Cursor) : c.Reaches ((c.after? sigil).getD c) := by
  cases h : c.after? sigil with
  | none => exact Cursor.Reaches.refl c
  | some d => exact Cursor.reaches_after? h

theorem entry_reaches {c d : Cursor} {found : Entry} (h : entry c = .ok (found, d)) :
    c.Reaches d := by
  unfold entry at h
  dsimp only at h
  split at h
  · cases h
  · next key named hnamed =>
    split at h
    · cases h
    · next equals hequals =>
      split at h
      · cases h
      · next text rest hvalue =>
        cases h
        exact (Cursor.reaches_skipBlanks c).trans ((reaches_afterSigil _).trans
          ((identifier_reaches hnamed).trans ((Cursor.reaches_skipBlanks named).trans
            ((Cursor.reaches_after? hequals).trans ((Cursor.reaches_skipBlanks equals).trans
              (value_reaches hvalue))))))

theorem entry_length_lt {c d : Cursor} {found : Entry} (h : entry c = .ok (found, d)) :
    d.ahead.length < c.ahead.length := by
  unfold entry at h
  dsimp only at h
  split at h
  · cases h
  · next key named hnamed =>
    split at h
    · cases h
    · next equals hequals =>
      split at h
      · cases h
      · next text rest hvalue =>
        cases h
        have hstart := ((Cursor.reaches_skipBlanks c).trans (reaches_afterSigil _)).length_le
        have hname := identifier_length_lt hnamed
        have hrest := ((Cursor.reaches_skipBlanks named).trans
          ((Cursor.reaches_after? hequals).trans ((Cursor.reaches_skipBlanks equals).trans
            (value_reaches hvalue)))).length_le
        omega

theorem closers_token_ne_nil : ∀ m ∈ closers, m.token.toList ≠ [] := by
  decide

/-- Every item takes something away, so a block has only finitely many. -/
theorem item_length_lt {c d : Cursor} {found : Item} (hahead : c.ahead ≠ [])
    (h : item c = .ok (found, d)) : d.ahead.length < c.ahead.length := by
  unfold item at h
  dsimp only at h
  split at h
  · cases h
    exact restOfLine_length_lt hahead
  · split at h
    · next marker rest hmarker =>
      cases h
      obtain ⟨m, hmem, hline⟩ := List.exists_of_findSome?_eq_some hmarker
      exact Marker.line_length_lt (closers_token_ne_nil m hmem) hline
    · split at h
      · next text rest hcomment =>
        cases h
        exact comment_length_lt hcomment
      · split at h
        · next hentry =>
          cases h
          exact entry_length_lt hentry
        · cases h

/-- The entries up to the closing marker of a block that `opener` opened at
    `start`. Whatever else stands in the block makes it malformed. -/
def entries (opener : Marker) (start c : Cursor) : Except Failure (List Entry × Cursor) :=
  if _hahead : c.ahead = [] then
    start.refuseAs .malformedMetadataBlock (.blockNeverClosed opener.token)
  else
    match _hitem : item c with
    | .error f => .error { f with kind := some .malformedMetadataBlock }
    | .ok (.closing marker, rest) =>
      if marker.style = opener.style then .ok ([], rest)
      else c.skipBlanks.refuseAs .malformedMetadataBlock
        (.markerMismatch opener.token marker.token)
    | .ok (.entry found, rest) =>
      match entries opener start rest with
      | .ok (later, after) => .ok (found :: later, after)
      | .error f => .error f
    | .ok (.empty, rest) => entries opener start rest
    | .ok (.comment _, rest) => entries opener start rest
termination_by c.ahead.length
decreasing_by all_goals exact item_length_lt _hahead _hitem

/-- An optional metadata block. Where no opening marker stands the value is
    `none` and nothing is consumed. -/
def block : Parser (Option (List Entry)) := fun c =>
  match markerLine openers c.skipSpace with
  | none => .ok (none, c)
  | some (opener, rest) =>
    match entries opener c.skipSpace rest with
    | .ok (found, after) => .ok (some found, after)
    | .error f => .error f

/-- The metadata at the cursor, empty where there is no block, and the cursor
    where the document proper begins. -/
def read (c : Cursor) : Except RenderError (List Entry × Cursor) :=
  match block c with
  | .ok (found, rest) => .ok (found.getD [], rest)
  | .error f => .error (.ofFailure f .malformedMetadataBlock)

end Metadata

end StaticPages
