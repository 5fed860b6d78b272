import StaticPages.Filter.Argument
import StaticPages.Proofs.Source.Token
import StaticPages.Proofs.Text.Space

namespace StaticPages.Filter.Argument

open Token

/-- A character is taken unless it ends the value. A brace does so with another behind it. -/
theorem bare_cons (c : Char) (rest : List Char) :
    bare (c :: rest) =
      if (c = ',' ∨ c = '|' ∨ c = '\n') ∨ c = '\x7d' ∧ rest.head? = some '\x7d' then []
      else c :: bare rest := by
  simp only [bare, Bool.or_eq_true, Bool.and_eq_true, beq_iff_eq, or_assoc]

/-- Whether nothing of a bare value stands at the front of a text, so that a value
    that has been read ends there. -/
def Ends (rest : List Char) : Prop :=
  bare rest = []

theorem ends_nil : Ends [] := rfl

theorem ends_comma (rest : List Char) : Ends (',' :: rest) := by
  simp [Ends, bare]

/-- What ends a value is a comma, a pipe, a line feed or a brace, so a class without
    these stops there. -/
theorem Ends.stops {rest : List Char} (h : Ends rest) {f : Char → Bool} (hcomma : f ',' = false)
    (hpipe : f '|' = false) (hline : f '\n' = false) (hbrace : f '\x7d' = false) :
    Text.Stops f rest := by
  intro c hc
  obtain ⟨others, rfl⟩ := List.head?_eq_some_iff.mp hc
  simp only [Ends, bare_cons, ite_eq_left_iff, reduceCtorEq, imp_false, Classical.not_not] at h
  rcases h with (rfl | rfl | rfl) | ⟨rfl, _⟩ <;> assumption

theorem Ends.stops_blank {rest : List Char} (h : Ends rest) : Text.Stops Text.isBlank rest :=
  h.stops rfl rfl rfl rfl

/-- Whether a character never ends a bare value, whatever stands after it. -/
def Inside (c : Char) : Prop :=
  c ≠ ',' ∧ c ≠ '|' ∧ c ≠ '\n' ∧ c ≠ '\x7d'

instance (c : Char) : Decidable (Inside c) :=
  inferInstanceAs (Decidable (_ ∧ _ ∧ _ ∧ _))

theorem inside_of_isBlank {c : Char} (h : Text.isBlank c = true) : Inside c := by
  simp only [Text.isBlank, Bool.or_eq_true, beq_iff_eq] at h
  rcases h with rfl | rfl <;> decide

theorem Ends.head?_ne {rest : List Char} (h : Ends rest) {x : Char} (hx : Inside x) :
    rest.head? ≠ some x := by
  intro hhead
  obtain ⟨others, rfl⟩ := List.head?_eq_some_iff.mp hhead
  obtain ⟨hcomma, hpipe, hline, hbrace⟩ := hx
  simp [Ends, bare_cons, hcomma, hpipe, hline, hbrace] at h

/-- A bare value takes the whole of a text exactly if nothing in the text ends it. -/
theorem bare_eq_self_iff {cs : List Char} :
    bare cs = cs ↔ ',' ∉ cs ∧ '|' ∉ cs ∧ '\n' ∉ cs ∧ ¬ ['\x7d', '\x7d'] <:+: cs := by
  induction cs with
  | nil => simp [bare]
  | cons c rest ih =>
    rw [bare_cons, List.infix_cons_iff, List.cons_prefix_cons,
      List.singleton_prefix_iff_head?_eq_some]
    split
    · next hends => grind
    · next hends =>
      rw [List.cons_inj_right, ih]
      grind

theorem bare_eq_self_of_inside {cs : List Char} (h : ∀ c ∈ cs, Inside c) : bare cs = cs := by
  refine bare_eq_self_iff.mpr ⟨fun hmem => (h _ hmem).1 rfl, fun hmem => (h _ hmem).2.1 rfl,
    fun hmem => (h _ hmem).2.2.1 rfl, fun hpair => ?_⟩
  exact (h _ (hpair.subset (by simp))).2.2.2 rfl

/-- A bare value that takes the whole of a text is prolonged by what follows, unless two
    braces that end it meet there. -/
theorem bare_append_of_eq {xs more : List Char} (h : bare xs = xs)
    (hseam : xs.getLast? = some '\x7d' → more.head? ≠ some '\x7d') :
    bare (xs ++ more) = xs ++ bare more := by
  induction xs with
  | nil => rfl
  | cons x xs ih =>
    have hhead : x = '\x7d' → (xs ++ more).head? = some '\x7d' → xs.head? = some '\x7d' := by
      rintro rfl hhead
      cases xs with
      | nil => exact absurd hhead (hseam rfl)
      | cons y ys => exact hhead
    rw [bare_cons] at h
    split at h
    · cases h
    · next hends =>
      have hrest : bare xs = xs := (List.cons.inj h).2
      have hlast : xs.getLast? = some '\x7d' → more.head? ≠ some '\x7d' := by
        intro hlast
        exact hseam (by rw [List.getLast?_cons, hlast]; rfl)
      rw [List.cons_append, bare_cons, if_neg, ih hrest hlast, List.cons_append]
      intro happended
      exact hends (happended.imp_right fun hpair => ⟨hpair.1, hhead hpair.1 hpair.2⟩)

/-- A value that can be written without quotes, whatever may follow an argument. -/
structure Unquoted (value : List Char) : Prop where
  ne_nil : value ≠ []
  trimmed : Text.trimChars value = value
  comma : ',' ∉ value
  pipe : '|' ∉ value
  line : '\n' ∉ value
  braces : ¬ ['\x7d', '\x7d'] <:+: value
  brace : value.getLast? ≠ some '\x7d'
  quote : value.head? ≠ some '"'

theorem unquoted_iff {value : List Char} :
    Unquoted value ↔ (value ≠ [] ∧ Text.trimChars value = value) ∧ bare value = value ∧
      value.getLast? ≠ some '\x7d' ∧ value.head? ≠ some '"' := by
  rw [bare_eq_self_iff]
  constructor
  · intro h
    exact ⟨⟨h.ne_nil, h.trimmed⟩, ⟨h.comma, h.pipe, h.line, h.braces⟩, h.brace, h.quote⟩
  · rintro ⟨⟨hne, htrim⟩, ⟨hcomma, hpipe, hline, hbraces⟩, hbrace, hquote⟩
    exact ⟨hne, htrim, hcomma, hpipe, hline, hbraces, hbrace, hquote⟩

instance (value : List Char) : Decidable (Unquoted value) :=
  decidable_of_iff _ unquoted_iff.symm

/-- The blanks behind an unquoted value are taken with it, and trimmed. -/
theorem Unquoted.bare_append {value after rest : List Char} (h : Unquoted value)
    (hafter : ∀ x ∈ after, Text.isBlank x = true) (hrest : Ends rest) :
    bare (value ++ (after ++ rest)) = value ++ after := by
  obtain ⟨-, hvalue, hbrace, -⟩ := unquoted_iff.mp h
  have hblanks : bare after = after :=
    bare_eq_self_of_inside fun x hx => inside_of_isBlank (hafter x hx)
  have hlast : after.getLast? ≠ some '\x7d' :=
    fun hlast => nomatch hafter _ (List.mem_of_getLast? hlast)
  rw [bare_append_of_eq hvalue fun heq => absurd heq hbrace,
    bare_append_of_eq hblanks fun heq => absurd heq hlast, hrest, List.append_nil]

/-- A bare value is read without the blanks around it. -/
theorem valueText_reads_bare {value before after rest : List Char} {c : Cursor}
    (h : c.ahead = before ++ (value ++ (after ++ rest))) (hvalue : Unquoted value)
    (hbefore : ∀ x ∈ before, Text.isBlank x = true)
    (hafter : ∀ x ∈ after, Text.isBlank x = true) (hrest : Ends rest) :
    Parser.Reads valueText c (String.ofList value) rest := by
  have hblank : Text.Stops Text.isBlank (value ++ (after ++ rest)) := by
    obtain ⟨x, xs, rfl⟩ := List.exists_cons_of_ne_nil hvalue.ne_nil
    exact Text.stops_cons.mpr (Text.stops_cons.mp (Text.stops_of_trimChars hvalue.trimmed).blank)
  have hstart : c.skipBlanks.ahead = value ++ (after ++ rest) :=
    Cursor.ahead_skipWhile h hbefore hblank
  have hhead : c.skipBlanks.head? ≠ some '"' := by
    have hquote := hvalue.quote
    obtain ⟨x, xs, rfl⟩ := List.exists_cons_of_ne_nil hvalue.ne_nil
    simpa [Cursor.head?, hstart] using hquote
  have hraw : bare c.skipBlanks.ahead = value ++ after := by
    rw [hstart, hvalue.bare_append hafter hrest]
  have htext : Text.trimChars (value ++ after) = value := by
    rw [Text.trimChars_append fun x hx => Text.isSpace_of_isBlank (hafter x hx), hvalue.trimmed]
  refine ⟨c.skipBlanks.drop (value ++ after).length, ?_, ?_⟩
  · have hempty : value.isEmpty = false := by simpa using hvalue.ne_nil
    simp only [valueText, if_neg hhead, hraw, htext, hempty, Bool.false_eq_true, if_false]
  · rw [Cursor.drop, hstart, ← List.append_assoc, List.drop_left]

/-- A quoted value is read as it is written between the quotes. -/
theorem valueText_reads_quoted {body before after rest : List Char} {c : Cursor}
    (h : c.ahead = before ++ '"' :: (body ++ '"' :: (after ++ rest))) (hbody : QuotedBody body)
    (hbefore : ∀ x ∈ before, Text.isBlank x = true)
    (hafter : ∀ x ∈ after, Text.isBlank x = true) (hrest : Ends rest) :
    Parser.Reads valueText c (String.ofList body) rest := by
  have hstart : c.skipBlanks.ahead = '"' :: (body ++ '"' :: (after ++ rest)) :=
    Cursor.ahead_skipWhile h hbefore (Text.stops_cons.mpr rfl)
  obtain ⟨closed, hclosed, hahead⟩ := quotedString_reads hstart hbody
  refine ⟨closed.skipBlanks, ?_, Cursor.ahead_skipWhile hahead hafter hrest.stops_blank⟩
  have hhead : c.skipBlanks.head? = some '"' := by simp [Cursor.head?, hstart]
  simp only [valueText, if_pos hhead, hclosed]

/-- Whether a name stands at the front of a text and a colon follows it, with no more than
    blanks between them. -/
def BeginsWithLabel (text : List Char) : Prop :=
  ∃ label between value, text = label ++ (between ++ ':' :: value) ∧ IsName label ∧
    ∀ x ∈ between, Text.isBlank x = true

theorem not_beginsWithLabel_cons {x : Char} (hx : x.isAlpha = false) (text : List Char) :
    ¬ BeginsWithLabel (x :: text) := by
  rintro ⟨label, between, value, htext, ⟨first, others, rfl, hfirst, -⟩, -⟩
  cases (List.cons.inj htext).1
  cases hx.symm.trans hfirst

theorem BeginsWithLabel.stops_isBlank {text : List Char} (h : BeginsWithLabel text) :
    Text.Stops Text.isBlank text := by
  obtain ⟨label, between, value, rfl, ⟨first, others, rfl, hfirst, -⟩, -⟩ := h
  exact (Text.stops_cons.mpr (Text.isSpace_of_isAlpha hfirst)).blank

/-- A label is read up to its colon. -/
theorem exists_identifier_of_label {label between value : List Char} {c : Cursor}
    (h : c.ahead = label ++ (between ++ ':' :: value)) (hlabel : IsName label)
    (hbetween : ∀ x ∈ between, Text.isBlank x = true) :
    ∃ named, identifier c = .ok (String.ofList label, named) ∧
      named.skipBlanks.ahead = ':' :: value := by
  have hstops : Text.Stops isNameChar (between ++ ':' :: value) :=
    Text.stops_append (fun x hx => isNameChar_of_isBlank (hbetween x hx)) (Text.stops_cons.mpr rfl)
  obtain ⟨named, hnamed, hahead⟩ := identifier_reads h hlabel hstops
  exact ⟨named, hnamed, Cursor.ahead_skipWhile hahead hbetween (Text.stops_cons.mpr rfl)⟩

theorem hasLabel_iff {c : Cursor} :
    hasLabel c = true ↔ BeginsWithLabel c.skipBlanks.ahead := by
  constructor
  · intro h
    unfold hasLabel at h
    split at h
    · next label named hnamed =>
      obtain ⟨hname, hahead, -⟩ := exists_name_of_identifier hnamed
      obtain ⟨between, hbetween, hall⟩ := Cursor.exists_skipWhile Text.isBlank named
      obtain ⟨value, hvalue⟩ := List.head?_eq_some_iff.mp (beq_iff_eq.mp h)
      refine ⟨label.toList, between, value, ?_, hname, hall⟩
      have hrest : named.ahead = between ++ ':' :: value := hvalue ▸ hbetween
      rw [hahead, hrest]
    · cases h
  · rintro ⟨label, between, value, htext, hlabel, hbetween⟩
    obtain ⟨named, hnamed, hcolon⟩ := exists_identifier_of_label htext hlabel hbetween
    simp [hasLabel, hnamed, Cursor.head?, hcolon]

instance (text : List Char) : Decidable (BeginsWithLabel text) :=
  decidable_of_iff (text.dropWhile Text.isBlank = text ∧ hasLabel ⟨text, Position.start⟩ = true) <| by
    rw [hasLabel_iff]
    constructor
    · rintro ⟨hblanks, hlabel⟩
      rwa [← hblanks]
    · intro hlabel
      have hblanks := Text.dropWhile_of_stops hlabel.stops_isBlank
      exact ⟨hblanks, by rwa [Cursor.skipBlanks, Cursor.skipWhile, hblanks]⟩

/-- A label, a colon and a value make a labelled argument. -/
theorem parse_reads_labelled {label value before between rest : List Char} {text : String}
    {c : Cursor} (h : c.ahead = before ++ (label ++ (between ++ ':' :: value)))
    (hbefore : ∀ x ∈ before, Text.isBlank x = true) (hlabel : IsName label)
    (hbetween : ∀ x ∈ between, Text.isBlank x = true)
    (hvalue : ∀ d : Cursor, d.ahead = value → Parser.Reads valueText d text rest) :
    Parser.Reads parse c ⟨some (String.ofList label), text⟩ rest := by
  have hbegins : BeginsWithLabel (label ++ (between ++ ':' :: value)) :=
    ⟨label, between, value, rfl, hlabel, hbetween⟩
  have hstart : c.skipBlanks.ahead = label ++ (between ++ ':' :: value) :=
    Cursor.ahead_skipWhile h hbefore hbegins.stops_isBlank
  obtain ⟨named, hnamed, hskip⟩ := exists_identifier_of_label hstart hlabel hbetween
  obtain ⟨colon, hafter, hahead⟩ : ∃ d, named.skipBlanks.after? ":" = some d ∧ d.ahead = value :=
    Cursor.exists_after? hskip
  obtain ⟨d, hread, hd⟩ := hvalue colon hahead
  refine ⟨d, ?_, hd⟩
  have hhas : hasLabel c = true := hasLabel_iff.mpr (hstart ▸ hbegins)
  simp only [parse, hhas, if_true, labelled, hnamed, hafter, hread]

/-- A value that no label begins is an argument by itself. -/
theorem parse_reads_unlabelled {rest : List Char} {text : String} {c : Cursor}
    (hlabel : hasLabel c = false) (hvalue : Parser.Reads valueText c text rest) :
    Parser.Reads parse c ⟨none, text⟩ rest := by
  obtain ⟨d, hread, hd⟩ := hvalue
  exact ⟨d, by simp only [parse, hlabel, Bool.false_eq_true, if_false, hread], hd⟩

theorem list_of_last {c d : Cursor} {a : Argument} (h : parse c = .ok (a, d))
    (hcomma : d.after? "," = none) : list c = .ok ([a], d) := by
  rw [list]
  split
  · next hfirst => cases h.symm.trans hfirst
  · next first rest hfirst =>
    cases h.symm.trans hfirst
    split
    · rfl
    · next hnext => cases hcomma.symm.trans hnext

theorem list_of_comma {c d e f : Cursor} {a : Argument} {others : List Argument}
    (h : parse c = .ok (a, d)) (hcomma : d.after? "," = some e) (hlist : list e = .ok (others, f)) :
    list c = .ok (a :: others, f) := by
  rw [list]
  split
  · next hfirst => cases h.symm.trans hfirst
  · next first rest hfirst =>
    cases h.symm.trans hfirst
    split
    · next hnext => cases hcomma.symm.trans hnext
    · next next hnext =>
      cases hcomma.symm.trans hnext
      rw [hlist]

/-- Whether a text is read as an argument wherever it ends, and with blanks behind it
    as well. -/
def Writes (text : List Char) (a : Argument) : Prop :=
  ∀ (c : Cursor) (after rest : List Char), c.ahead = text ++ (after ++ rest) →
    (∀ x ∈ after, Text.isBlank x = true) → Ends rest → Parser.Reads parse c a rest

/-- Texts of arguments with commas between them are read one after the other. -/
theorem list_reads {items : List (List Char × Argument)} (hne : items ≠ [])
    (hitems : ∀ item ∈ items, Writes item.1 item.2) {after rest : List Char} {c : Cursor}
    (h : c.ahead = [','].intercalate (items.map Prod.fst) ++ (after ++ rest))
    (hafter : ∀ x ∈ after, Text.isBlank x = true) (hrest : Ends rest)
    (hcomma : rest.head? ≠ some ',') :
    Parser.Reads list c (items.map Prod.snd) rest := by
  induction items generalizing c with
  | nil => exact absurd rfl hne
  | cons item more ih =>
    have hitem := hitems item (by simp)
    cases more with
    | nil =>
      have hlast : c.ahead = item.1 ++ (after ++ rest) := by simpa [List.intercalate] using h
      obtain ⟨d, hd, hahead⟩ := hitem c after rest hlast hafter hrest
      refine ⟨d, list_of_last hd ?_, hahead⟩
      rw [Cursor.after?_eq_none_iff, hahead]
      rintro others rfl
      exact hcomma rfl
    | cons next more =>
      obtain ⟨d, hd, hahead⟩ := hitem c []
        (',' :: ([','].intercalate ((next :: more).map Prod.fst) ++ (after ++ rest)))
        (by simpa [List.intercalate] using h) (by simp) (ends_comma _)
      obtain ⟨e, he, hnext⟩ : ∃ e, d.after? "," = some e ∧
          e.ahead = [','].intercalate ((next :: more).map Prod.fst) ++ (after ++ rest) :=
        Cursor.exists_after? hahead
      obtain ⟨f, hf, hend⟩ := ih (by simp) (fun other ho => hitems other (by simp [ho])) hnext
      exact ⟨f, list_of_comma hd he hf, hend⟩

end StaticPages.Filter.Argument
