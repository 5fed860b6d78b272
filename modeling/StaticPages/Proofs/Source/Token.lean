import StaticPages.Proofs.Source.Cursor
import StaticPages.Source.Token

namespace StaticPages

instance decidableEqExcept {ε α : Type} [DecidableEq ε] [DecidableEq α] :
    DecidableEq (Except ε α)
  | .ok a, .ok b => decidable_of_iff (a = b) ⟨congrArg Except.ok, Except.ok.inj⟩
  | .error e, .error f => decidable_of_iff (e = f) ⟨congrArg Except.error, Except.error.inj⟩
  | .ok _, .error _ => isFalse nofun
  | .error _, .ok _ => isFalse nofun

/-- Whether a parser reads a value at a cursor and stops before `rest`. -/
def Parser.Reads {α : Type} (p : Parser α) (c : Cursor) (value : α) (rest : List Char) : Prop :=
  ∃ d, p c = .ok (value, d) ∧ d.ahead = rest

namespace Token

/-- A name is a letter with letters, digits and underscores after it. -/
def IsName (cs : List Char) : Prop :=
  ∃ first rest, cs = first :: rest ∧ first.isAlpha = true ∧ ∀ c ∈ rest, isNameChar c = true

theorem isNameChar_of_isAlpha {c : Char} (h : c.isAlpha = true) : isNameChar c = true := by
  simp [isNameChar, Char.isAlphanum, h]

theorem isNameChar_of_isSpace {c : Char} (h : Text.isSpace c = true) : isNameChar c = false := by
  rw [Bool.eq_false_iff]
  intro hname
  simp only [isNameChar, Char.isAlphanum, Bool.or_eq_true, beq_iff_eq] at hname
  rcases hname with (halpha | hdigit) | rfl
  · cases (Text.isSpace_of_isAlpha halpha).symm.trans h
  · cases (Text.isSpace_of_isDigit hdigit).symm.trans h
  · cases h

theorem isNameChar_of_isBlank {c : Char} (h : Text.isBlank c = true) : isNameChar c = false :=
  isNameChar_of_isSpace (Text.isSpace_of_isBlank h)

theorem isName_cons {first : Char} {rest : List Char} (hfirst : first.isAlpha = true)
    (hrest : rest.all isNameChar = true) : IsName (first :: rest) :=
  ⟨first, rest, rfl, hfirst, List.all_eq_true.mp hrest⟩

theorem IsName.all {cs : List Char} (h : IsName cs) : ∀ c ∈ cs, isNameChar c = true := by
  obtain ⟨first, rest, rfl, hfirst, hrest⟩ := h
  intro c hc
  rcases List.mem_cons.mp hc with rfl | hc
  · exact isNameChar_of_isAlpha hfirst
  · exact hrest c hc

/-- The identifier is the longest name at the cursor. -/
theorem identifier_reads {name rest : List Char} {c : Cursor} (h : c.ahead = name ++ rest)
    (hname : IsName name) (hrest : Text.Stops isNameChar rest) :
    Parser.Reads identifier c (String.ofList name) rest := by
  have hall := hname.all
  refine ⟨c.skipWhile isNameChar, ?_, Cursor.ahead_skipWhile h hall hrest⟩
  obtain ⟨first, others, rfl, hfirst, -⟩ := hname
  have hhead : c.head? = some first := by simp [Cursor.head?, h]
  simp only [identifier, hhead, hfirst, if_true, Cursor.takeWhile]
  rw [h, Text.takeWhile_append_of_stops hall hrest]

theorem exists_name_of_identifier {c d : Cursor} {name : String}
    (h : identifier c = .ok (name, d)) :
    IsName name.toList ∧ c.ahead = name.toList ++ d.ahead ∧ Text.Stops isNameChar d.ahead := by
  unfold identifier at h
  split at h
  · next first hhead =>
    split at h
    · next halpha =>
      cases h
      obtain ⟨rest, hrest⟩ := List.head?_eq_some_iff.mp hhead
      have hfirst := isNameChar_of_isAlpha halpha
      refine ⟨⟨first, rest.takeWhile isNameChar, ?_, halpha, fun _ => Text.mem_takeWhile⟩, ?_,
        Cursor.stops_skipWhile _ c⟩
      · simp [hrest, hfirst]
      · simp [Cursor.skipWhile]
    · cases h
  · cases h

theorem variableName_reads {name rest : List Char} {c : Cursor}
    (h : c.ahead = sigil.toList ++ (name ++ rest)) (hname : IsName name)
    (hrest : Text.Stops isNameChar rest) :
    Parser.Reads variableName c (String.ofList name) rest := by
  obtain ⟨named, hnamed, hahead⟩ := Cursor.exists_after? h
  obtain ⟨d, hread, hd⟩ := identifier_reads hahead hname hrest
  exact ⟨d, by simp only [variableName, hnamed, hread], hd⟩

/-- What may stand between the quotes of a string: characters other than quotes and
    backslashes, and backslashes that each hide the character after them. -/
inductive QuotedBody : List Char → Prop
  | nil : QuotedBody []
  | plain {c : Char} {cs : List Char} (hquote : c ≠ '"') (hslash : c ≠ '\\')
      (hrest : QuotedBody cs) : QuotedBody (c :: cs)
  | hidden {c : Char} {cs : List Char} (hrest : QuotedBody cs) : QuotedBody ('\\' :: c :: cs)

theorem QuotedBody.append {xs ys : List Char} (hxs : QuotedBody xs) (hys : QuotedBody ys) :
    QuotedBody (xs ++ ys) := by
  induction hxs with
  | nil => exact hys
  | plain hquote hslash _ ih => exact .plain hquote hslash ih
  | hidden _ ih => exact .hidden ih

theorem quotedBody_of_forall {cs : List Char} (h : ∀ c ∈ cs, c ≠ '"' ∧ c ≠ '\\') :
    QuotedBody cs := by
  induction cs with
  | nil => exact .nil
  | cons c cs ih =>
    obtain ⟨hquote, hslash⟩ := h c (by simp)
    exact .plain hquote hslash (ih fun d hd => h d (by simp [hd]))

theorem closeQuote_append {body : List Char} (h : QuotedBody body) (rest : List Char) :
    closeQuote (body ++ '"' :: rest) = some (body, rest) := by
  induction h with
  | nil => rfl
  | @plain c cs hquote hslash _ ih =>
    rw [List.cons_append, closeQuote.eq_4 _ _ hquote (fun _ _ h _ => hslash h), ih]
    rfl
  | @hidden c cs _ ih =>
    rw [List.cons_append, List.cons_append, closeQuote, ih]
    rfl

theorem quotedBody_of_closeQuote {text body rest : List Char}
    (h : closeQuote text = some (body, rest)) : QuotedBody body := by
  fun_induction closeQuote text generalizing body rest with
  | case1 => cases h
  | case2 =>
    cases h
    exact .nil
  | case3 c rest ih =>
    obtain ⟨⟨inner, after⟩, hinner, heq⟩ := Option.map_eq_some_iff.mp h
    cases heq
    exact .hidden (ih hinner)
  | case4 c more hquote hslash ih =>
    obtain ⟨⟨inner, after⟩, hinner, heq⟩ := Option.map_eq_some_iff.mp h
    cases heq
    refine .plain hquote ?_ (ih hinner)
    rintro rfl
    cases more with
    | nil => cases hinner
    | cons d others => exact hslash d others rfl rfl

/-- A string ends at the first quote that no backslash hides. -/
theorem closeQuote_eq_some_iff {text body rest : List Char} :
    closeQuote text = some (body, rest) ↔ text = body ++ '"' :: rest ∧ QuotedBody body := by
  constructor
  · intro h
    exact ⟨closeQuote_eq h, quotedBody_of_closeQuote h⟩
  · rintro ⟨rfl, h⟩
    exact closeQuote_append h rest

instance (cs : List Char) : Decidable (QuotedBody cs) :=
  decidable_of_iff (closeQuote (cs ++ ['"']) = some (cs, [])) <|
    closeQuote_eq_some_iff.trans (and_iff_right rfl)

theorem quotedString_reads {body rest : List Char} {c : Cursor}
    (h : c.ahead = '"' :: (body ++ '"' :: rest)) (hbody : QuotedBody body) :
    Parser.Reads quotedString c (String.ofList body) rest := by
  refine ⟨c.drop (body.length + 2), ?_, ?_⟩
  · simp only [quotedString, h, closeQuote_append hbody rest]
  · have hlength : body.length + 2 = ('"' :: (body ++ ['"'])).length := by simp
    rw [Cursor.drop, hlength, h, show '"' :: (body ++ '"' :: rest) =
      '"' :: (body ++ ['"']) ++ rest by simp, List.drop_left]

theorem exists_body_of_quotedString {c d : Cursor} {text : String}
    (h : quotedString c = .ok (text, d)) :
    c.ahead = '"' :: (text.toList ++ '"' :: d.ahead) ∧ QuotedBody text.toList := by
  have hread := h
  unfold quotedString at hread
  split at hread
  · next rest hahead =>
    split at hread
    · next body after hclose =>
      obtain ⟨rfl, hbody⟩ := closeQuote_eq_some_iff.mp hclose
      obtain ⟨e, he, rfl⟩ := quotedString_reads hahead hbody
      cases h.symm.trans he
      exact ⟨by simpa using hahead, by simpa using hbody⟩
    · cases hread
  · cases hread

/-- Whether a quoted string stands at the front of a text: a body between two quotes, with
    `rest` behind them. -/
structure Quoted (text body rest : List Char) : Prop where
  text_eq : text = '"' :: (body ++ '"' :: rest)
  isBody : QuotedBody body

/-- A text begins with one quoted string at most: the first quote that no backslash hides
    closes it. -/
theorem Quoted.unique {text body rest body' rest' : List Char} (h : Quoted text body rest)
    (h' : Quoted text body' rest') : body = body' ∧ rest = rest' := by
  have hinner : body ++ '"' :: rest = body' ++ '"' :: rest' :=
    (List.cons.inj (h.text_eq.symm.trans h'.text_eq)).2
  have hclose := closeQuote_append h.isBody rest
  rw [hinner, closeQuote_append h'.isBody rest'] at hclose
  cases hclose
  exact ⟨rfl, rfl⟩

theorem quotedString_eq_ok_iff {c d : Cursor} {value : String} :
    quotedString c = .ok (value, d) ↔ Quoted c.ahead value.toList d.ahead ∧
      d.position = c.position.after ('"' :: (value.toList ++ ['"'])) := by
  have hreaches : ∀ {rest}, Quoted c.ahead value.toList rest →
      c.Reaches ⟨rest, c.position.after ('"' :: (value.toList ++ ['"']))⟩ :=
    fun h => ⟨_, by simp [h.text_eq], rfl⟩
  constructor
  · intro h
    obtain ⟨htext, hbody⟩ := exists_body_of_quotedString h
    have hquoted : Quoted c.ahead value.toList d.ahead := ⟨htext, hbody⟩
    exact ⟨hquoted,
      congrArg Cursor.position ((quotedString_reaches h).eq_of_ahead (hreaches hquoted) rfl)⟩
  · rintro ⟨hquoted, hposition⟩
    obtain ⟨e, he, hrest⟩ := quotedString_reads hquoted.text_eq hquoted.isBody
    have hd : c.Reaches d := by
      have hd := hreaches hquoted
      rwa [← hposition] at hd
    rw [he, (quotedString_reaches he).eq_of_ahead hd hrest, String.ofList_toList]

/-- Where no string is read, the refusal is at the cursor. -/
theorem eq_of_quotedString_eq_error {c : Cursor} {f : Failure} (h : quotedString c = .error f) :
    f = ⟨if c.head? = some '"' then .unterminatedString else .noQuotedString, c.position, none⟩ := by
  unfold quotedString at h
  split at h
  · next rest hahead =>
    split at h
    · cases h
    · cases h
      simp [Cursor.head?, hahead]
  · next hquote =>
    cases h
    rw [if_neg]
    intro hhead
    obtain ⟨rest, hrest⟩ := List.head?_eq_some_iff.mp hhead
    exact hquote rest hrest

/-- A quoted string is read exactly if one stands at the cursor. The text then divides in one
    way, the value is the body as it is written, and the cursor is placed behind the closing
    quote. Otherwise the text is refused at the cursor, for a missing quote at its front or for
    a string that is never closed. -/
theorem quotedString_spec (c : Cursor) :
    ((∃ value d, quotedString c = .ok (value, d)) ↔ ∃ body rest, Quoted c.ahead body rest) ∧
      (∀ body rest body' rest', Quoted c.ahead body rest → Quoted c.ahead body' rest' →
        body = body' ∧ rest = rest') ∧
      (∀ value d, quotedString c = .ok (value, d) ↔ Quoted c.ahead value.toList d.ahead ∧
        d.position = c.position.after ('"' :: (value.toList ++ ['"']))) ∧
      ∀ f, quotedString c = .error f ↔ (¬ ∃ body rest, Quoted c.ahead body rest) ∧
        f = ⟨if c.head? = some '"' then .unterminatedString else .noQuotedString,
          c.position, none⟩ := by
  have hsucceeds : (∃ value d, quotedString c = .ok (value, d)) ↔
      ∃ body rest, Quoted c.ahead body rest := by
    constructor
    · rintro ⟨value, d, h⟩
      exact ⟨_, _, (quotedString_eq_ok_iff.mp h).1⟩
    · rintro ⟨body, rest, h⟩
      obtain ⟨d, hd, -⟩ := quotedString_reads h.text_eq h.isBody
      exact ⟨_, d, hd⟩
  refine ⟨hsucceeds, fun _ _ _ _ h h' => h.unique h', fun _ _ => quotedString_eq_ok_iff,
    fun f => ?_⟩
  rw [← hsucceeds]
  constructor
  · intro h
    refine ⟨?_, eq_of_quotedString_eq_error h⟩
    rintro ⟨value, d, hread⟩
    cases h.symm.trans hread
  · rintro ⟨hfails, rfl⟩
    cases hread : quotedString c with
    | ok found => exact absurd ⟨found.1, found.2, hread⟩ hfails
    | error g => rw [eq_of_quotedString_eq_error hread]

/-- Of two backslashes the first hides the second, and the quote behind them closes. -/
example : quotedString (Cursor.ofString "\"a\\\\\" b\"") =
    .ok ("a\\\\", ⟨[' ', 'b', '"'], 1, 5⟩) := by
  decide

/-- Whether `line` is the first line of `text` and `rest` is what comes after it. A
    line feed ends a line, and so does the end of the text. -/
def Line (line text rest : List Char) : Prop :=
  '\n' ∉ line ∧ (text = line ++ '\n' :: rest ∨ text = line ∧ rest = [])

theorem Line.takeWhile {line text rest : List Char} (h : Line line text rest) :
    text.takeWhile (· != '\n') = line ∧ (text.dropWhile (· != '\n')).drop 1 = rest := by
  obtain ⟨hnot, htext⟩ := h
  have hall : ∀ x ∈ line, (x != '\n') = true := by
    intro x hx
    have hne : x ≠ '\n' := by
      rintro rfl
      exact hnot hx
    simpa using hne
  rcases htext with rfl | ⟨rfl, rfl⟩
  · have hstops : Text.Stops (· != '\n') ('\n' :: rest) := Text.stops_cons.mpr rfl
    rw [Text.takeWhile_append_of_stops hall hstops, Text.dropWhile_append_of_stops hall hstops]
    simp
  · have htake := Text.takeWhile_append_of_stops hall (Text.stops_nil _)
    have hdrop := Text.dropWhile_append_of_stops hall (Text.stops_nil _)
    simp only [List.append_nil] at htake hdrop
    rw [htake, hdrop]
    simp

/-- A text has one first line. -/
theorem Line.unique {line text rest line' rest' : List Char} (h : Line line text rest)
    (h' : Line line' text rest') : line = line' ∧ rest = rest' :=
  ⟨h.takeWhile.1.symm.trans h'.takeWhile.1, h.takeWhile.2.symm.trans h'.takeWhile.2⟩

theorem exists_line (text : List Char) : ∃ line rest, Line line text rest := by
  refine ⟨text.takeWhile (· != '\n'), (text.dropWhile (· != '\n')).drop 1, ?_, ?_⟩
  · intro h
    simpa using Text.mem_takeWhile h
  · have hsplit := List.takeWhile_append_dropWhile (p := (· != '\n')) (l := text)
    cases hrest : text.dropWhile (· != '\n') with
    | nil =>
      rw [hrest, List.append_nil] at hsplit
      exact .inr ⟨hsplit.symm, rfl⟩
    | cons x xs =>
      have hstops := Text.stops_dropWhile (· != '\n') text
      rw [hrest, Text.stops_cons] at hstops
      have hx : x = '\n' := by simpa using hstops
      rw [hrest, hx] at hsplit
      exact .inl (by simpa using hsplit.symm)

theorem Line.prepend {xs line text rest : List Char} (h : Line line text rest)
    (hxs : '\n' ∉ xs) : Line (xs ++ line) (xs ++ text) rest := by
  obtain ⟨hnot, htext⟩ := h
  refine ⟨by simp [hxs, hnot], ?_⟩
  rcases htext with rfl | ⟨rfl, rfl⟩
  · exact .inl (by simp)
  · exact .inr ⟨rfl, rfl⟩

theorem Line.exists_text {xs line text rest : List Char} (h : Line (xs ++ line) text rest) :
    ∃ more, text = xs ++ more ∧ Line line more rest := by
  obtain ⟨hnot, htext⟩ := h
  have hline : '\n' ∉ line := fun hmem => hnot (by simp [hmem])
  rcases htext with rfl | ⟨rfl, rfl⟩
  · exact ⟨line ++ '\n' :: rest, by simp, hline, .inl rfl⟩
  · exact ⟨line, rfl, hline, .inr ⟨rfl, rfl⟩⟩

theorem Line.head?_eq_some_iff {line text rest : List Char} (h : Line line text rest) {x : Char}
    (hx : x ≠ '\n') : text.head? = some x ↔ line.head? = some x := by
  obtain ⟨-, rfl | ⟨rfl, -⟩⟩ := h
  · cases line with
    | nil => simp [hx.symm]
    | cons y ys => simp
  · rfl

/-- A class without the line feed stops before a text just as it does before its line. -/
theorem Line.stops_iff {f : Char → Bool} {line text rest : List Char} (h : Line line text rest)
    (hfeed : f '\n' = false) : Text.Stops f text ↔ Text.Stops f line := by
  have hiff : ∀ x, f x = true → (text.head? = some x ↔ line.head? = some x) := by
    intro x hx
    refine h.head?_eq_some_iff ?_
    rintro rfl
    rw [hfeed] at hx
    cases hx
  constructor
  · intro hstops x hx
    exact Bool.eq_false_iff.mpr fun hf => Bool.eq_false_iff.mp (hstops x ((hiff x hf).mpr hx)) hf
  · intro hstops x hx
    exact Bool.eq_false_iff.mpr fun hf => Bool.eq_false_iff.mp (hstops x ((hiff x hf).mp hx)) hf

theorem restOfLine_of_line {line rest : List Char} {c : Cursor} (h : Line line c.ahead rest) :
    (restOfLine c).1 = String.ofList (withoutReturn line) ∧ (restOfLine c).2.ahead = rest := by
  obtain ⟨htake, hdrop⟩ := h.takeWhile
  exact ⟨by rw [restOfLine, htake], hdrop⟩

/-- A carriage return is white space, so trimming does not miss it. -/
theorem exists_withoutReturn (line : List Char) :
    ∃ after, line = withoutReturn line ++ after ∧ ∀ x ∈ after, Text.isSpace x = true := by
  unfold withoutReturn
  split
  · next hlast =>
    obtain ⟨ys, rfl⟩ := List.getLast?_eq_some_iff.mp hlast
    exact ⟨['\r'], by simp, by simp [Text.isSpace]⟩
  · exact ⟨[], by simp, by simp⟩

theorem isEmptyLine_withoutReturn {line : List Char} :
    isEmptyLine (String.ofList (withoutReturn line)) = true ↔
      ∀ x ∈ line, Text.isSpace x = true := by
  obtain ⟨after, hline, hafter⟩ := exists_withoutReturn line
  rw [isEmptyLine, String.toList_ofList, List.all_eq_true]
  constructor
  · intro h x hx
    rw [hline] at hx
    rcases List.mem_append.mp hx with hx | hx
    · exact h x hx
    · exact hafter x hx
  · intro h x hx
    exact h x (by rw [hline]; simp [hx])

theorem trimEnd_withoutReturn (line : List Char) :
    Text.trimEnd (String.ofList (withoutReturn line)) =
      String.ofList (Text.trimEndChars line) := by
  obtain ⟨after, hline, hafter⟩ := exists_withoutReturn line
  rw [Text.trimEnd, String.toList_ofList]
  conv => rhs; rw [hline, Text.trimEndChars_append hafter]

end Token

end StaticPages
