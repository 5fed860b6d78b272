import StaticPages.Proofs.Document.Agreement
import StaticPages.Proofs.Document.Heading
import StaticPages.Proofs.Template.Agreement

namespace StaticPages

/-- Whether a position is that of a place in a text, at or behind the offset `least`. Line
    feeds are counted among the code units before the place, which may divide a pair. -/
structure Position.TrueIn (text : String) (least : Nat) (p : Position) : Prop where
  behind : least ≤ p.offset
  inside : p.offset ≤ Text.size text.toList
  line : p.line = 1 + ((Text.units text.toList).take p.offset).count '\n'.toNat

/-- Whether the position of a cursor is true, and what lies ahead of the cursor is the
    text from there on. -/
structure Cursor.TrueIn (text : String) (least : Nat) (c : Cursor) : Prop where
  position : c.position.TrueIn text least
  ahead : c.ahead = Text.dropUnits c.position.offset text.toList

/-- Whether a parser stops at a true place, and gives a true one where it refuses. -/
structure Parser.TrueIn {α : Type} (text : String) (c : Cursor) (p : Parser α) : Prop where
  rest : ∀ {value d}, p c = .ok (value, d) → d.TrueIn text c.position.offset
  refused : ∀ {f}, p c = .error f → f.position.TrueIn text c.position.offset

/-- Whether a parser that accepts the text at a cursor takes something away. -/
def Parser.Progresses {α : Type} (c : Cursor) (p : Parser α) : Prop :=
  ∀ {value d}, p c = .ok (value, d) → c.position.offset < d.position.offset

/-- Whether an error has a position and it is true. -/
def RenderError.TrueIn (text : String) (least : Nat) (e : RenderError) : Prop :=
  ∃ p, e.position = some p ∧ p.TrueIn text least

/-- Whether both ends of a span are true. -/
def Span.TrueIn (text : String) (least : Nat) (s : Span) : Prop :=
  s.start.TrueIn text least ∧ s.stop.TrueIn text least

/-- The cursor at the start of a text after consuming so many units, again and again. -/
def Cursor.advanceAll (text : String) (counts : List Nat) : Cursor :=
  counts.foldl (fun c count => c.advance count) (ofString text)

/-- All that the parsers of documents and templates yield at a cursor is true. -/
structure TruePlaces (text : String) (c : Cursor) : Prop where
  start : c.TrueIn text 0
  advance : ∀ count, (c.advance count).TrueIn text c.position.offset ∧
    (c.advance count).position.offset =
      min (c.position.offset + count) (Text.size text.toList)
  seek : ∀ offset, c.position.offset ≤ offset →
    (c.seek offset).TrueIn text c.position.offset ∧
      (c.seek offset).position.offset = min offset (Text.size text.toList)
  skipBlanks : c.skipBlanks.TrueIn text c.position.offset
  skipSpace : c.skipSpace.TrueIn text c.position.offset
  restOfLine : (Token.restOfLine c).2.TrueIn text c.position.offset
  identifier : Parser.TrueIn text c Token.identifier ∧ Parser.Progresses c Token.identifier
  variableName : Parser.TrueIn text c Token.variableName ∧
    Parser.Progresses c Token.variableName
  quotedString : Parser.TrueIn text c Token.quotedString ∧
    Parser.Progresses c Token.quotedString
  comment : Parser.TrueIn text c Metadata.comment ∧ Parser.Progresses c Metadata.comment
  entry : Parser.TrueIn text c Metadata.entry ∧ Parser.Progresses c Metadata.entry
  markerLine : ∀ {markers m d}, Metadata.markerLine markers c = some (m, d) →
    d.TrueIn text c.position.offset
  block : Parser.TrueIn text c Metadata.block
  metadata : (∀ {found d}, Metadata.read c = .ok (found, d) → d.TrueIn text c.position.offset) ∧
    ∀ {e}, Metadata.read c = .error e → e.TrueIn text c.position.offset
  heading : Parser.TrueIn text c Heading.parse
  extract : ∀ {e}, Heading.extract c = .error e → e.TrueIn text c.position.offset
  argumentValue : Parser.TrueIn text c Filter.Argument.valueText
  labelled : Parser.TrueIn text c Filter.Argument.labelled ∧
    Parser.Progresses c Filter.Argument.labelled
  arguments : Parser.TrueIn text c Filter.Argument.list
  filter : Parser.TrueIn text c Filter.parse ∧ Parser.Progresses c Filter.parse
  pipeline : Parser.TrueIn text c Filter.pipeline
  placeholder : Parser.TrueIn text c Placeholder.parse ∧ Parser.Progresses c Placeholder.parse
  selection : ∀ {p d}, Placeholder.parse c = .ok (p, d) →
    p.selection.TrueIn text c.position.offset
  locate : (∀ {found}, Placeholder.locate c = .ok found →
      ∀ p ∈ found, p.selection.TrueIn text c.position.offset) ∧
    ∀ {e}, Placeholder.locate c = .error e → e.TrueIn text c.position.offset

section Reached

variable {text : String} {c d : Cursor}

/-- The end that a cursor sees is that of the text. -/
theorem Cursor.TrueIn.endOffset_eq {least : Nat} (h : c.TrueIn text least) :
    c.endOffset = Text.size text.toList := by
  have hinside := h.position.inside
  rw [endOffset, h.ahead, Text.size_dropUnits]
  omega

/-- Consuming units leads from a place of the text to a place of it, whether or not they
    are whole characters. -/
theorem Cursor.TrueIn.advance {least : Nat} (h : c.TrueIn text least) (count : Nat) :
    (c.advance count).TrueIn text c.position.offset := by
  -- A count that leads past the end leads to the end, so it can be taken to be no greater.
  rw [← advance_min]
  have hcount := Nat.min_le_right count (Text.size c.ahead)
  generalize min count (Text.size c.ahead) = count at hcount ⊢
  have hend := h.endOffset_eq
  have hoffset : (c.advance count).position.offset = c.position.offset + count := by
    rw [advance_offset, endOffset]
    omega
  refine ⟨⟨?_, ?_, ?_⟩, ?_⟩
  · omega
  · rw [hoffset, ← hend, endOffset]
    omega
  · have hpassed := Text.count_take_units_dropUnits c.position.offset count text.toList
    rw [← h.ahead, ← Text.count_takeUnits] at hpassed
    rw [hoffset, List.take_add, List.count_append, ← hpassed, ← Nat.add_assoc, ← h.position.line,
      Cursor.advance, Position.after_line]
  · rw [hoffset, ← Text.dropUnits_dropUnits, ← h.ahead]
    rfl

/-- The places that are reached from a place of a text are places of it. -/
theorem Cursor.Reaches.trueIn (hplace : c.TrueIn text 0) (h : c.Reaches d) :
    d.TrueIn text c.position.offset := by
  rw [← h.seek_offset]
  exact hplace.advance _

theorem Position.Abreast.trueIn {R : List Char → List Char → Prop} {p q : Position}
    (hplace : c.TrueIn text 0) (h : Position.Abreast R c d p q) :
    p.TrueIn text c.position.offset := by
  obtain ⟨e, f, hplaces, rfl, -⟩ := h
  exact (hplaces.left.trueIn hplace).position

/-- A parser agrees with itself, so it goes from its cursor to places of the text. -/
theorem Agree.trueIn {α : Type} {R : List Char → List Char → Prop} {V : α → α → Prop}
    {p : Parser α} (hplace : c.TrueIn text 0)
    (h : Agree R V c c (p c) (p c)) : Parser.TrueIn text c p := by
  obtain ⟨a, b, e, f, hc, -, -, hplaces⟩ | ⟨failure, other, hc, -, hfails⟩ := h.cases
  · refine ⟨fun hread => ?_, fun hrefused => ?_⟩
    · cases hc.symm.trans hread
      exact hplaces.left.trueIn hplace
    · cases hc.symm.trans hrefused
  · refine ⟨fun hread => ?_, fun hrefused => ?_⟩
    · cases hc.symm.trans hread
    · cases hc.symm.trans hrefused
      exact hfails.2.2.trueIn hplace

/-- The error made of a refusal stands where the refusal does. -/
theorem RenderError.TrueIn.ofFailure {f : Failure} {least : Nat} (h : f.position.TrueIn text least)
    (kind : ErrorKind) : (RenderError.ofFailure f kind).TrueIn text least :=
  ⟨f.position, rfl, h⟩

end Reached

section Progress

variable {c d : Cursor}

theorem Token.variableName_length_lt {name : String} (h : variableName c = .ok (name, d)) :
    d.ahead.length < c.ahead.length := by
  unfold variableName at h
  split at h
  · cases h
  · next named hnamed =>
    split at h
    · next found hfound =>
      cases h
      have hsigil := (Cursor.reaches_after? hnamed).length_le
      have hname := identifier_length_lt hfound
      omega
    · cases h

theorem Token.quotedString_length_lt {body : String} (h : quotedString c = .ok (body, d)) :
    d.ahead.length < c.ahead.length := by
  unfold quotedString at h
  split at h
  · next rest hquote =>
    split at h
    · cases h
      simp only [Cursor.drop, List.length_drop, hquote, List.length_cons]
      omega
    · cases h
  · cases h

theorem Filter.Argument.labelled_length_lt {a : Argument} (h : labelled c = .ok (a, d)) :
    d.ahead.length < c.ahead.length := by
  unfold labelled at h
  split at h
  · cases h
  · next label named hnamed =>
    split at h
    · cases h
    · next colon hcolon =>
      split at h
      · next text rest hvalue =>
        cases h
        have hstart := (Cursor.reaches_skipBlanks c).length_le
        have hname := Token.identifier_length_lt hnamed
        have hrest := ((Cursor.reaches_skipBlanks named).trans
          ((Cursor.reaches_after? hcolon).trans (valueText_reaches hvalue))).length_le
        omega
      · cases h

theorem Filter.parse_length_lt {filter : Filter} (h : parse c = .ok (filter, d)) :
    d.ahead.length < c.ahead.length := by
  unfold parse at h
  dsimp only at h
  split at h
  · cases h
  · next written named hnamed =>
    split at h
    · cases h
    · split at h
      · cases h
      · next given rest hgiven =>
        split at h
        · cases h
          have hstart := (Cursor.reaches_skipBlanks c).length_le
          have hname := Token.identifier_length_lt hnamed
          have hrest := (arguments_reaches hgiven).length_le
          omega
        · cases h

end Progress

/-- From a place of a text all parsers go on to places of it. -/
theorem truePlaces_of_trueIn {text : String} {c : Cursor}
    (hplace : c.TrueIn text 0) : TruePlaces text c where
  start := hplace
  advance count := ⟨hplace.advance count, by rw [Cursor.advance_offset, hplace.endOffset_eq]⟩
  seek offset hoffset := by
    refine ⟨hplace.advance _, ?_⟩
    rw [Cursor.seek, Cursor.advance_offset, hplace.endOffset_eq, Nat.add_sub_cancel' hoffset]
  skipBlanks := (Cursor.reaches_skipBlanks c).trueIn hplace
  skipSpace := (Cursor.reaches_skipSpace c).trueIn hplace
  restOfLine := (Token.restOfLine_reaches c).trueIn hplace
  identifier := ⟨(Token.identifier_agree lexical_eq rfl).trueIn hplace,
    fun h => (Token.identifier_reaches h).offset_lt (Token.identifier_length_lt h)⟩
  variableName := ⟨(Token.variableName_agree lexical_eq rfl).trueIn hplace,
    fun h => (Token.variableName_reaches h).offset_lt (Token.variableName_length_lt h)⟩
  quotedString := ⟨(Token.quotedString_agree lexical_eq rfl).trueIn hplace,
    fun h => (Token.quotedString_reaches h).offset_lt (Token.quotedString_length_lt h)⟩
  comment := ⟨(Metadata.comment_agree lexical_eq rfl).trueIn hplace,
    fun h => (Metadata.comment_reaches h).offset_lt (Metadata.comment_length_lt h)⟩
  entry := ⟨(Metadata.entry_agree lexical_eq rfl).trueIn hplace,
    fun h => (Metadata.entry_reaches h).offset_lt (Metadata.entry_length_lt h)⟩
  markerLine h := (Metadata.markerLine_reaches h).trueIn hplace
  block := (Metadata.block_agree lexical_eq rfl).trueIn hplace
  metadata := by
    obtain ⟨a, b, e, f, hc, -, -, hplaces⟩ | ⟨f, g, hc, -, hfails⟩ :=
      Metadata.read_cases lexical_eq (c := c) (d := c) rfl
    · refine ⟨fun hread => ?_, fun hrefused => ?_⟩
      · cases hc.symm.trans hread
        exact hplaces.left.trueIn hplace
      · cases hc.symm.trans hrefused
    · refine ⟨fun hread => ?_, fun hrefused => ?_⟩
      · cases hc.symm.trans hread
      · cases hc.symm.trans hrefused
        exact .ofFailure (hfails.2.2.trueIn hplace) _
  heading := (Heading.parse_agree lexical_eq rfl).trueIn hplace
  extract h := by
    unfold Heading.extract at h
    split at h
    · cases h
    · next hrefused =>
      cases h
      exact .ofFailure (((Heading.parse_agree lexical_eq rfl).trueIn hplace).refused hrefused) _
  argumentValue := (Filter.Argument.valueText_agree rfl).trueIn hplace
  labelled := ⟨(Filter.Argument.labelled_agree rfl).trueIn hplace,
    fun h => (Filter.Argument.labelled_reaches h).offset_lt (Filter.Argument.labelled_length_lt h)⟩
  arguments := (Filter.Argument.list_agree rfl).trueIn hplace
  filter := ⟨(Filter.parse_agree rfl).trueIn hplace,
    fun h => (Filter.parse_reaches h).offset_lt (Filter.parse_length_lt h)⟩
  pipeline := (Filter.pipeline_agree rfl).trueIn hplace
  placeholder := ⟨(Placeholder.parse_agree rfl).trueIn hplace,
    fun h => (Placeholder.parse_reaches h).offset_lt (Placeholder.parse_length_lt h)⟩
  selection h := by
    obtain ⟨p, q, e, f, hc, -, halike, -⟩ | ⟨failure, other, hc, -⟩ :=
      (Placeholder.parse_agree (c := c) rfl).cases
    · cases hc.symm.trans h
      exact ⟨halike.start.trueIn hplace, halike.stop.trueIn hplace⟩
    · cases hc.symm.trans h
  locate := by
    unfold Placeholder.locate
    obtain ⟨found, others, hc, hothers, halike⟩ | ⟨f, g, hc, -, hfails⟩ :=
      Placeholder.scan_cases (c := c) (d := c) rfl
    · cases hc.symm.trans hothers
      rw [hc]
      refine ⟨fun hfound p hp => ?_, fun hrefused => by cases hrefused⟩
      cases hfound
      have hself := List.forall₂_same.mp halike p (List.mem_reverse.mp hp)
      exact ⟨hself.start.trueIn hplace, hself.stop.trueIn hplace⟩
    · rw [hc]
      refine ⟨fun hfound => (by cases hfound), fun hrefused => ?_⟩
      cases hrefused
      exact .ofFailure (hfails.2.2.trueIn hplace) _

theorem Cursor.trueIn_ofString (text : String) : (ofString text).TrueIn text 0 where
  position := ⟨Nat.le_refl 0, Nat.zero_le _, rfl⟩
  ahead := (Text.dropUnits_zero text.toList).symm

theorem Cursor.trueIn_advanceAll (text : String) (counts : List Nat) :
    (advanceAll text counts).TrueIn text 0 := by
  suffices h : ∀ c : Cursor, c.TrueIn text 0 →
      (counts.foldl (fun c count => c.advance count) c).TrueIn text 0 from
    h (ofString text) (trueIn_ofString text)
  induction counts with
  | nil => exact fun c hplace => hplace
  | cons count counts ih =>
    intro c hplace
    have hstep := hplace.advance count
    exact ih (c.advance count)
      ⟨⟨Nat.zero_le _, hstep.position.inside, hstep.position.line⟩, hstep.ahead⟩

/-- Positions are true: whatever a parser yields at a cursor that was advanced from the
    start of a text, it is a place of that text at or behind the cursor, and its line is
    one more than the line feeds before it. -/
theorem truePlaces_advanceAll (text : String) (counts : List Nat) :
    TruePlaces text (Cursor.advanceAll text counts) :=
  truePlaces_of_trueIn (Cursor.trueIn_advanceAll text counts)

/-- A count may end within a character. -/
example : ([[1], [1, 1], [1, 1, 1]].map fun counts =>
    (Cursor.advanceAll "😀x" counts).position.offset) = [1, 2, 3] := by decide

end StaticPages
