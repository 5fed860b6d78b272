import StaticPages.Source.Token

namespace StaticPages.Filter

open Token

/-- An argument as it is written: `label: value`, or a value alone. -/
structure Argument where
  label : Option String
  value : String
  deriving DecidableEq, Repr

namespace Argument

/-- The start of a text that can be a bare value: up to a comma, a pipe, a line
    feed or two closing braces. -/
def bare : List Char → List Char
  | [] => []
  | c :: rest =>
    if c == ',' || c == '|' || c == '\n' || (c == '\x7d' && rest.head? == some '\x7d') then []
    else c :: bare rest

/-- A quoted string with the blanks after it, or a bare value without the white
    space around it. -/
def valueText : Parser String := fun c =>
  let start := c.skipBlanks
  if start.head? = some '"' then
    match quotedString start with
    | .ok (text, after) => .ok (text, after.skipBlanks)
    | .error f => .error f
  else
    let raw := bare start.ahead
    let text := Text.trimChars raw
    if text.isEmpty then start.refuse .noArgumentValue
    else .ok (String.ofList text, start.drop raw.length)

/-- `label: value`. -/
def labelled : Parser Argument := fun c =>
  match identifier c.skipBlanks with
  | .error f => .error f
  | .ok (label, named) =>
    match named.skipBlanks.after? ":" with
    | none => named.skipBlanks.refuse (.noColon label)
    | some colon =>
      match valueText colon with
      | .ok (text, rest) => .ok (⟨some label, text⟩, rest)
      | .error f => .error f

/-- Whether an identifier and a colon begin the argument. -/
def hasLabel (c : Cursor) : Bool :=
  match identifier c.skipBlanks with
  | .ok (_, named) => named.skipBlanks.head? == some ':'
  | .error _ => false

def parse : Parser Argument := fun c =>
  if hasLabel c then labelled c
  else
    match valueText c with
    | .ok (text, rest) => .ok (⟨none, text⟩, rest)
    | .error f => .error f

theorem valueText_reaches {c d : Cursor} {text : String} (h : valueText c = .ok (text, d)) :
    c.Reaches d := by
  unfold valueText at h
  dsimp only at h
  split at h
  · split at h
    · next found after hfound =>
      simp only [Except.ok.injEq, Prod.mk.injEq] at h
      obtain ⟨_, rfl⟩ := h
      exact (Cursor.reaches_skipBlanks c).trans
        ((quotedString_reaches hfound).trans (Cursor.reaches_skipBlanks after))
    · cases h
  · split at h
    · cases h
    · simp only [Except.ok.injEq, Prod.mk.injEq] at h
      obtain ⟨_, rfl⟩ := h
      exact (Cursor.reaches_skipBlanks c).trans (Cursor.reaches_drop _ _)

theorem labelled_reaches {c d : Cursor} {a : Argument} (h : labelled c = .ok (a, d)) :
    c.Reaches d := by
  unfold labelled at h
  split at h
  · cases h
  · next label named hnamed =>
    split at h
    · cases h
    · next colon hcolon =>
      split at h
      · next text rest hvalue =>
        cases h
        exact (Cursor.reaches_skipBlanks c).trans ((identifier_reaches hnamed).trans
          ((Cursor.reaches_skipBlanks named).trans ((Cursor.reaches_after? hcolon).trans
            (valueText_reaches hvalue))))
      · cases h

theorem parse_reaches {c d : Cursor} {a : Argument} (h : parse c = .ok (a, d)) :
    c.Reaches d := by
  unfold parse at h
  split at h
  · exact labelled_reaches h
  · split at h
    · next text rest hvalue =>
      cases h
      exact valueText_reaches hvalue
    · cases h

/-- Arguments with commas between them; at least one. -/
def list (c : Cursor) : Except Failure (List Argument × Cursor) :=
  match _hfirst : parse c with
  | .error f => .error f
  | .ok (first, rest) =>
    match _hcomma : rest.after? "," with
    | none => .ok ([first], rest)
    | some next =>
      match list next with
      | .ok (others, after) => .ok (first :: others, after)
      | .error f => .error f
termination_by c.ahead.length
decreasing_by
  have hparse := (parse_reaches _hfirst).length_le
  have hcomma := Cursor.after?_length_lt (by decide) _hcomma
  omega

theorem list_reaches {c d : Cursor} {found : List Argument} (h : list c = .ok (found, d)) :
    c.Reaches d := by
  fun_induction list c generalizing found with
  | case1 c f hfirst => cases h
  | case2 c first rest hfirst hcomma =>
    cases h
    exact parse_reaches hfirst
  | case3 c first rest hfirst next hcomma others after hothers ih =>
    cases h
    exact (parse_reaches hfirst).trans ((Cursor.reaches_after? hcomma).trans (ih hothers))
  | case4 => cases h

end Argument

end StaticPages.Filter
