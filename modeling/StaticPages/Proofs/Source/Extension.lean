import StaticPages.Proofs.Source.Token

namespace StaticPages

namespace Cursor

/-- The cursor at the same place, with more text behind what lies ahead. -/
def append (c : Cursor) (more : List Char) : Cursor :=
  ⟨c.ahead ++ more, c.position⟩

/-- Whether something other than white space lies ahead. -/
def Continues (c : Cursor) : Prop :=
  ∃ x ∈ c.ahead, Text.isSpace x = false

variable {c d : Cursor} {more : List Char}

namespace Continues

theorem ne_nil (h : c.Continues) : c.ahead ≠ [] := by
  obtain ⟨x, hx, -⟩ := h
  exact List.ne_nil_of_mem hx

theorem of_reaches (hreach : c.Reaches d) (h : d.Continues) : c.Continues := by
  obtain ⟨taken, hahead, -⟩ := hreach
  obtain ⟨x, hx, hspace⟩ := h
  exact ⟨x, hahead ▸ List.mem_append_right taken hx, hspace⟩

/-- White space alone is passed over, so what is not white space stays ahead. -/
theorem skipWhile {f : Char → Bool} (hf : ∀ {x}, f x = true → Text.isSpace x = true)
    (h : c.Continues) : (c.skipWhile f).Continues := by
  obtain ⟨x, hx, hspace⟩ := h
  obtain ⟨passed, hahead, hpassed⟩ := exists_skipWhile f c
  rw [hahead] at hx
  rcases List.mem_append.mp hx with hx | hx
  · rw [hf (hpassed x hx)] at hspace
    cases hspace
  · exact ⟨x, hx, hspace⟩

theorem skipSpace (h : c.Continues) : c.skipSpace.Continues :=
  h.skipWhile id

theorem skipBlanks (h : c.Continues) : c.skipBlanks.Continues :=
  h.skipWhile Text.isSpace_of_isBlank

end Continues

theorem Reaches.append (h : c.Reaches d) (more : List Char) :
    (c.append more).Reaches (d.append more) := by
  obtain ⟨taken, htaken, hposition⟩ := h
  exact ⟨taken, by simp only [Cursor.append, htaken, List.append_assoc], hposition⟩

/-- With text appended, the places of a text are the same with the text appended. -/
theorem Reaches.eq_append {e : Cursor} (h : c.Reaches d) (he : (c.append more).Reaches e)
    (hahead : e.ahead = d.ahead ++ more) : e = d.append more :=
  he.eq_of_ahead (h.append more) hahead

theorem Reaches.ahead_eq_nil (h : c.Reaches d) (hc : c.ahead = []) : d.ahead = [] := by
  obtain ⟨taken, htaken, -⟩ := h
  rw [hc] at htaken
  exact (List.append_eq_nil_iff.mp htaken.symm).2

/-- All places of a text see it end at one position. -/
theorem Reaches.after_ahead (h : c.Reaches d) :
    d.position.after d.ahead = c.position.after c.ahead := by
  obtain ⟨taken, hahead, hposition⟩ := h
  rw [hahead, hposition, Position.after_append]

theorem head?_append (h : c.ahead ≠ []) : (c.append more).head? = c.head? := by
  obtain ⟨x, xs, hxs⟩ := List.exists_cons_of_ne_nil h
  simp only [head?, append, hxs, List.cons_append, List.head?_cons]

/-- A run of characters that ends before the text does is not prolonged. -/
theorem skipWhile_append {f : Char → Bool} (h : (c.skipWhile f).ahead ≠ []) :
    (c.append more).skipWhile f = (c.skipWhile f).append more := by
  refine (reaches_skipWhile f c).eq_append (reaches_skipWhile f _) ?_
  simp only [skipWhile, append] at h ⊢
  rw [List.dropWhile_append, if_neg (by simpa using h)]

theorem skipSpace_append (h : c.Continues) :
    (c.append more).skipSpace = c.skipSpace.append more :=
  skipWhile_append h.skipSpace.ne_nil

theorem skipBlanks_append_of_ne_nil (h : c.skipBlanks.ahead ≠ []) :
    (c.append more).skipBlanks = c.skipBlanks.append more :=
  skipWhile_append h

theorem skipBlanks_append (h : c.Continues) :
    (c.append more).skipBlanks = c.skipBlanks.append more :=
  skipBlanks_append_of_ne_nil h.skipBlanks.ne_nil

/-- Where a text ends in blanks, what follows it begins behind them. -/
theorem ahead_skipBlanks_append (h : c.skipBlanks.ahead = []) (more : List Char) :
    (c.append more).skipBlanks.ahead = more.dropWhile Text.isBlank := by
  have hdrop : c.ahead.dropWhile Text.isBlank = [] := h
  simp only [skipBlanks, skipWhile, append, List.dropWhile_append, hdrop, List.isEmpty_nil,
    if_true]

theorem drop_append {n : Nat} (h : n ≤ c.ahead.length) :
    (c.append more).drop n = (c.drop n).append more :=
  (reaches_drop n c).eq_append (reaches_drop n _) (List.drop_append_of_le_length h)

theorem after?_append {token : String} (h : c.after? token = some d) :
    (c.append more).after? token = some (d.append more) := by
  have happended : (c.append more).ahead = token.toList ++ (d.ahead ++ more) := by
    simp only [append, ahead_of_after? h, List.append_assoc]
  obtain ⟨e, he, hahead⟩ := exists_after? happended
  rw [he, (reaches_after? h).eq_append (reaches_after? he) hahead]

theorem ne_nil_of_after? {token : String} (htoken : token.toList ≠ [])
    (h : c.after? token = some d) : c.ahead ≠ [] := by
  intro hend
  have hlt := after?_length_lt htoken h
  simp [hend] at hlt

theorem continues_of_after? {token : String} {x : Char} (h : c.after? token = some d)
    (htoken : token.toList = [x]) (hspace : Text.isSpace x = false) : c.Continues := by
  refine ⟨x, ?_, hspace⟩
  rw [ahead_of_after? h, htoken]
  exact List.mem_cons_self

theorem after?_append_eq_none {token : String} (hlength : token.toList.length ≤ c.ahead.length)
    (h : c.after? token = none) : (c.append more).after? token = none := by
  rw [after?_eq_none_iff] at h ⊢
  intro rest hrest
  have hprefix : token.toList <+: c.ahead :=
    List.prefix_of_prefix_length_le ⟨rest, hrest.symm⟩ (List.prefix_append c.ahead more) hlength
  obtain ⟨after, hafter⟩ := hprefix
  exact h after hafter.symm

end Cursor

/-- Whether what a parser has read stays as it is when text is appended, if it stopped
    before something other than white space. -/
def Parser.Settled {α : Type} (p : Parser α) : Prop :=
  ∀ {c d : Cursor} {value : α} (more : List Char), p c = .ok (value, d) → d.Continues →
    p (c.append more) = .ok (value, d.append more)

namespace Token

theorem ne_nil_of_identifier {c d : Cursor} {name : String} (h : identifier c = .ok (name, d)) :
    c.ahead ≠ [] := by
  intro hend
  have hlt := identifier_length_lt h
  simp [hend] at hlt

theorem identifier_append_of_stops {c d : Cursor} {name : String} {more : List Char}
    (h : identifier c = .ok (name, d)) (hstops : Text.Stops isNameChar (d.ahead ++ more)) :
    identifier (c.append more) = .ok (name, d.append more) := by
  obtain ⟨hname, hahead, -⟩ := exists_name_of_identifier h
  have happended : (c.append more).ahead = name.toList ++ (d.ahead ++ more) := by
    rw [Cursor.append, hahead, List.append_assoc]
  obtain ⟨e, he, hrest⟩ := identifier_reads happended hname hstops
  rw [he, (identifier_reaches h).eq_append (identifier_reaches he) hrest, String.ofList_toList]

theorem identifier_append {c d : Cursor} {name : String} (h : identifier c = .ok (name, d))
    (hne : d.ahead ≠ []) (more : List Char) :
    identifier (c.append more) = .ok (name, d.append more) := by
  obtain ⟨-, -, hstops⟩ := exists_name_of_identifier h
  obtain ⟨x, xs, hxs⟩ := List.exists_cons_of_ne_nil hne
  refine identifier_append_of_stops h ?_
  rw [hxs] at hstops ⊢
  exact Text.stops_cons.mpr (Text.stops_cons.mp hstops)

/-- Where no identifier begins, none begins with text appended. -/
theorem identifier_append_eq_error {c : Cursor} {f : Failure} (hne : c.ahead ≠ [])
    (h : identifier c = .error f) (more : List Char) :
    ∃ g, identifier (c.append more) = .error g := by
  unfold identifier at h ⊢
  rw [Cursor.head?_append hne]
  split at h
  · split at h
    · cases h
    · next halpha => exact ⟨_, by rw [if_neg halpha]; rfl⟩
  · exact ⟨_, rfl⟩

theorem variableName_settled : Parser.Settled variableName := by
  intro c d name more h hcontinues
  unfold variableName at h ⊢
  split at h
  · cases h
  · next named hnamed =>
    split at h
    · next found hfound =>
      cases h
      simp only [Cursor.after?_append hnamed, identifier_append hfound hcontinues.ne_nil]
    · cases h

/-- The closing quote ends a string, whatever follows it. -/
theorem quotedString_append {c d : Cursor} {body : String} (h : quotedString c = .ok (body, d))
    (more : List Char) : quotedString (c.append more) = .ok (body, d.append more) := by
  obtain ⟨⟨htext, hbody⟩, hposition⟩ := quotedString_eq_ok_iff.mp h
  refine quotedString_eq_ok_iff.mpr ⟨⟨?_, hbody⟩, hposition⟩
  simp only [Cursor.append, htext, List.cons_append, List.append_assoc]

theorem quotedString_settled : Parser.Settled quotedString :=
  fun more h _ => quotedString_append h more

end Token

end StaticPages
