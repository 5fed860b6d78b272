import StaticPages.Proofs.Document.Agreement
import StaticPages.Proofs.Template.Composition

namespace StaticPages

/-- The same place of a text with another text before it. -/
def Cursor.shift (before : List Char) (c : Cursor) : Cursor :=
  ⟨c.ahead, c.position.shift before⟩

def Failure.shift (before : List Char) (f : Failure) : Failure :=
  { f with position := f.position.shift before }

/-- What a parser gives where another text stands before. The value is changed by `move`
    if it holds positions of its own. -/
def shiftRead {α : Type} (before : List Char) (move : α → α) :
    Except Failure (α × Cursor) → Except Failure (α × Cursor)
  | .ok (value, rest) => .ok (move value, rest.shift before)
  | .error f => .error (f.shift before)

/-- What is made of a text, or its error, where another text stands before. -/
def shiftOutcome {α : Type} (before : List Char) (move : α → α) :
    Except RenderError α → Except RenderError α
  | .ok value => .ok (move value)
  | .error e => .error (e.shift before)

/-- All parsers make of the text at `d` what they make of it at `c`, where the text
    `before` does not stand before it. -/
structure ReadsAlike (before : List Char) (c d : Cursor) : Prop where
  identifier : Token.identifier d = shiftRead before id (Token.identifier c)
  variableName : Token.variableName d = shiftRead before id (Token.variableName c)
  restOfLine : Token.restOfLine d =
    ((Token.restOfLine c).1, (Token.restOfLine c).2.shift before)
  comment : Metadata.comment d = shiftRead before id (Metadata.comment c)
  quotedString : Token.quotedString d = shiftRead before id (Token.quotedString c)
  entry : Metadata.entry d = shiftRead before id (Metadata.entry c)
  block : Metadata.block d = shiftRead before id (Metadata.block c)
  metadata : Metadata.read d = shiftOutcome before
    (fun (found, rest) => (found, rest.shift before)) (Metadata.read c)
  heading : Heading.parse d = shiftRead before id (Heading.parse c)
  extract : Heading.extract d = shiftOutcome before id (Heading.extract c)
  argumentValue : Filter.Argument.valueText d =
    shiftRead before id (Filter.Argument.valueText c)
  labelled : Filter.Argument.labelled d = shiftRead before id (Filter.Argument.labelled c)
  argument : Filter.Argument.parse d = shiftRead before id (Filter.Argument.parse c)
  arguments : Filter.Argument.list d = shiftRead before id (Filter.Argument.list c)
  filter : Filter.parse d = shiftRead before id (Filter.parse c)
  pipeline : Filter.pipeline d = shiftRead before id (Filter.pipeline c)
  placeholder : Placeholder.parse d =
    shiftRead before (Placeholder.shift before) (Placeholder.parse c)
  locate : Placeholder.locate d =
    shiftOutcome before (List.map (Placeholder.shift before)) (Placeholder.locate c)

variable {before : List Char} {c : Cursor}

theorem Cursor.ahead_shift (before : List Char) (c : Cursor) :
    c.ahead = (c.shift before).ahead := rfl

section Abreast

theorem Cursor.Abreast.eq_shift {e f : Cursor} (h : c.Abreast Eq (c.shift before) e f) :
    f = e.shift before := by
  have hplaces : Position.Abreast Eq c (c.shift before) e.position f.position :=
    ⟨e, f, h, rfl, rfl⟩
  have hposition := hplaces.eq_shift (c.ahead_shift before) rfl
  have hahead := h.ahead
  cases f
  simp only at hposition hahead
  rw [hposition, ← hahead]
  rfl

theorem Failure.Abreast.eq_shift {f g : Failure}
    (h : Failure.Abreast Eq c (c.shift before) f g) : g = f.shift before := by
  obtain ⟨hproblem, hkind, hplaces⟩ := h
  rw [Failure.shift, ← hplaces.eq_shift (c.ahead_shift before) rfl, hproblem, hkind]

/-- Where what a parser gives agrees with what it gives behind another text, the one is
    the other shifted. -/
theorem Agree.eq_shift {α : Type} {V : α → α → Prop} {move : α → α}
    {x y : Except Failure (α × Cursor)} (h : Agree Eq V c (c.shift before) x y)
    (hmove : ∀ a b, V a b → b = move a) : y = shiftRead before move x := by
  cases h with
  | read hvalue hrest =>
    rw [hmove _ _ hvalue, hrest.eq_shift]
    rfl
  | refused hfails =>
    rw [hfails.eq_shift]
    rfl

theorem Agree.eq_shift_of_eq {α : Type} {x y : Except Failure (α × Cursor)}
    (h : Agree Eq Eq c (c.shift before) x y) : y = shiftRead before id x :=
  h.eq_shift fun _ _ hvalue => hvalue.symm

theorem eq_of_sameText (a b : String) (h : SameText Eq a b) : b = a := by
  rcases h with rfl | htext
  · rfl
  · exact (String.toList_inj.mp htext).symm

theorem eq_of_sameEntry (a b : Entry) (h : a.Same Eq b) : b = a := by
  obtain ⟨hkey, hvalue⟩ := h
  cases a
  cases b
  simp only at hkey hvalue
  rw [hkey, eq_of_sameText _ _ hvalue]

theorem eq_of_sameEntries {a b : List Entry} (h : List.Forall₂ (Entry.Same Eq) a b) : b = a := by
  induction h with
  | nil => rfl
  | cons hsame _ ih => rw [eq_of_sameEntry _ _ hsame, ih]

theorem eq_of_sameBlock (a b : Option (List Entry))
    (h : Option.Rel (List.Forall₂ (Entry.Same Eq)) a b) : b = a := by
  cases h with
  | none => rfl
  | some h => rw [eq_of_sameEntries h]

end Abreast

section Heading

theorem Cursor.drop_shift (n : Nat) : (c.shift before).drop n = (c.drop n).shift before := by
  simp only [drop, shift, Position.shift_after]

theorem Cursor.skipWhile_shift (p : Char → Bool) :
    (c.shift before).skipWhile p = (c.skipWhile p).shift before := by
  simp only [skipWhile, shift, Position.shift_after]

theorem Cursor.skipBlanks_shift : (c.shift before).skipBlanks = c.skipBlanks.shift before :=
  skipWhile_shift _

theorem Cursor.skipSpace_shift : (c.shift before).skipSpace = c.skipSpace.shift before :=
  skipWhile_shift _

theorem Cursor.head?_shift : (c.shift before).head? = c.head? := rfl

theorem Cursor.refuseAs_shift {α : Type} (kind : ErrorKind) (problem : Problem) :
    ((c.shift before).refuseAs kind problem : Except Failure (α × Cursor)) =
      shiftRead before id (c.refuseAs kind problem) := rfl

/-- A title may end within the ending of its line, so what two texts have in common behind
    it is less than the texts themselves. Here the texts are one. -/
theorem Heading.parse_shift (before : List Char) (c : Cursor) :
    Heading.parse (c.shift before) = shiftRead before id (Heading.parse c) := by
  unfold Heading.parse
  simp only [Cursor.skipSpace_shift, Cursor.skipBlanks_shift, Cursor.takeWhile,
    Cursor.skipWhile_shift, Cursor.drop_shift, Cursor.head?_shift, ← Cursor.ahead_shift,
    Cursor.refuseAs_shift]
  split
  · rfl
  · split
    · rfl
    · split <;> rfl

theorem Heading.extract_shift (before : List Char) (c : Cursor) :
    Heading.extract (c.shift before) = shiftOutcome before id (Heading.extract c) := by
  unfold Heading.extract
  rw [Heading.parse_shift]
  cases Heading.parse c <;> rfl

end Heading

theorem Metadata.read_shift (before : List Char) (c : Cursor) :
    Metadata.read (c.shift before) =
      shiftOutcome before (fun (found, rest) => (found, rest.shift before)) (Metadata.read c) := by
  obtain ⟨a, b, e, f, hc, hd, hsame, hrest⟩ | ⟨f, g, hc, hd, hfails⟩ :=
    Metadata.read_cases lexical_eq (c.ahead_shift before)
  · rw [hc, hd, eq_of_sameEntries hsame, hrest.eq_shift]
    rfl
  · rw [hc, hd, hfails.eq_shift]
    rfl

theorem Placeholder.locate_shift (before : List Char) (c : Cursor) :
    Placeholder.locate (c.shift before) =
      shiftOutcome before (List.map (Placeholder.shift before)) (Placeholder.locate c) := by
  unfold Placeholder.locate
  obtain ⟨found, others, hc, hd, halike⟩ | ⟨f, g, hc, hd, hfails⟩ :=
    Placeholder.scan_cases (c.ahead_shift before)
  · rw [hc, hd, Placeholder.eq_map_shift (c.ahead_shift before) rfl halike]
    simp only [shiftOutcome, List.map_reverse]
  · rw [hc, hd, hfails.eq_shift]
    rfl

theorem readsAlike_shift (before : List Char) (c : Cursor) :
    ReadsAlike before c (c.shift before) where
  identifier := (Token.identifier_agree lexical_eq (c.ahead_shift before)).eq_shift_of_eq
  variableName := (Token.variableName_agree lexical_eq (c.ahead_shift before)).eq_shift_of_eq
  restOfLine := by
    obtain ⟨hline, hrest⟩ := Token.restOfLine_agree lexical_eq (c.ahead_shift before)
    rw [← hline, ← hrest.eq_shift]
  comment := (Metadata.comment_agree lexical_eq (c.ahead_shift before)).eq_shift_of_eq
  quotedString :=
    (Token.quotedString_agree lexical_eq (c.ahead_shift before)).eq_shift eq_of_sameText
  entry := (Metadata.entry_agree lexical_eq (c.ahead_shift before)).eq_shift eq_of_sameEntry
  block := (Metadata.block_agree lexical_eq (c.ahead_shift before)).eq_shift eq_of_sameBlock
  metadata := Metadata.read_shift before c
  heading := Heading.parse_shift before c
  extract := Heading.extract_shift before c
  argumentValue := (Filter.Argument.valueText_agree (c.ahead_shift before)).eq_shift_of_eq
  labelled := (Filter.Argument.labelled_agree (c.ahead_shift before)).eq_shift_of_eq
  argument := (Filter.Argument.parse_agree (c.ahead_shift before)).eq_shift_of_eq
  arguments := (Filter.Argument.list_agree (c.ahead_shift before)).eq_shift_of_eq
  filter := (Filter.parse_agree (c.ahead_shift before)).eq_shift_of_eq
  pipeline := (Filter.pipeline_agree (c.ahead_shift before)).eq_shift_of_eq
  placeholder := (Placeholder.parse_agree (c.ahead_shift before)).eq_shift
    fun _ _ halike => halike.eq_shift (c.ahead_shift before) rfl
  locate := Placeholder.locate_shift before c

end StaticPages
