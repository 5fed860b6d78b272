import StaticPages.Document.Metadata
import StaticPages.Proofs.Source.Token

namespace StaticPages.Metadata

open Token

/-- The tokens that open a block. -/
def Style.opening : Style → List String
  | colon => [":meta"]
  | tag => ["<meta>"]
  | processing => ["<?meta", "<?"]

/-- The token that closes a block. -/
def Style.closing : Style → String
  | colon => ":meta"
  | tag => "</meta>"
  | processing => "?>"

theorem mem_openers_iff {m : Marker} : m ∈ openers ↔ m.token ∈ m.style.opening := by
  obtain ⟨token, style⟩ := m
  cases style <;> simp [openers, Style.opening]

theorem mem_closers_iff {m : Marker} : m ∈ closers ↔ m = ⟨m.style.closing, m.style⟩ := by
  obtain ⟨token, style⟩ := m
  cases style <;> simp [closers, Style.closing]

/-- A token alone on the first line of a text: blanks may stand before it and white
    space after it. -/
def MarkerLine (token : String) (text rest : List Char) : Prop :=
  ∃ before after, (∀ x ∈ before, Text.isBlank x = true) ∧ (∀ x ∈ after, Text.isSpace x = true) ∧
    Line (before ++ (token.toList ++ after)) text rest

/-- The right-hand side of an entry: a quoted string, over several lines if need be,
    that only white space follows on its line, or the line without white space at its
    end. -/
inductive ValueText (value : String) (text rest : List Char) : Prop
  | quoted {after more : List Char} (htext : text = '"' :: (value.toList ++ '"' :: more))
      (hbody : QuotedBody value.toList) (hline : Line after more rest)
      (hafter : ∀ x ∈ after, Text.isSpace x = true)
  | bare {line : List Char} (hquote : line.head? ≠ some '"') (hline : Line line text rest)
      (hvalue : value = String.ofList (Text.trimEndChars line))

/-- How an item of an open block is written, and what comes after it. Blanks between
    two parts of an item belong to neither of them. -/
inductive Spells : Item → List Char → List Char → Prop
  | empty {line text rest : List Char} (hline : Line line text rest)
      (hspace : ∀ x ∈ line, Text.isSpace x = true) : Spells .empty text rest
  | closing {style : Style} {text rest : List Char} (hline : MarkerLine style.closing text rest) :
      Spells (.closing ⟨style.closing, style⟩) text rest
  | comment {mark : String} {before between remark text rest : List Char}
      (hbefore : ∀ x ∈ before, Text.isBlank x = true) (hmark : mark = "//" ∨ mark = "#")
      (hbetween : ∀ x ∈ between, Text.isBlank x = true) (hremark : Text.Stops Text.isBlank remark)
      (hline : Line (before ++ (mark.toList ++ (between ++ remark))) text rest) :
      Spells (.comment (String.ofList (Text.trimEndChars remark))) text rest
  | entry {key value : String} {before mark between gap text more rest : List Char}
      (hbefore : ∀ x ∈ before, Text.isBlank x = true) (hmark : mark = [] ∨ mark = sigil.toList)
      (hkey : IsName key.toList) (hbetween : ∀ x ∈ between, Text.isBlank x = true)
      (hgap : ∀ x ∈ gap, Text.isBlank x = true) (hmore : Text.Stops Text.isBlank more)
      (htext : text = before ++ (mark ++ (key.toList ++ (between ++ '=' :: (gap ++ more)))))
      (hvalue : ValueText value more rest) : Spells (.entry ⟨key, value⟩) text rest

/-- The items of an open block up to its closing marker, with the entries among them. -/
inductive Body (style : Style) : List Entry → List Char → List Char → Prop
  | close {text rest : List Char} (h : MarkerLine style.closing text rest) : Body style [] text rest
  | empty {entries : List Entry} {text more rest : List Char} (h : Spells .empty text more)
      (hmore : Body style entries more rest) : Body style entries text rest
  | comment {remark : String} {entries : List Entry} {text more rest : List Char}
      (h : Spells (.comment remark) text more) (hmore : Body style entries more rest) :
      Body style entries text rest
  | entry {first : Entry} {others : List Entry} {text more rest : List Char}
      (h : Spells (.entry first) text more) (hmore : Body style others more rest) :
      Body style (first :: others) text rest

/-- White space and an opening marker on its own line. -/
def Opening (style : Style) (text rest : List Char) : Prop :=
  ∃ space line token, text = space ++ line ∧ (∀ x ∈ space, Text.isSpace x = true) ∧
    token ∈ style.opening ∧ MarkerLine token line rest

/-- A whole block, from the white space before it to the end of its last line. -/
def Block (entries : List Entry) (text rest : List Char) : Prop :=
  ∃ style body, Opening style text body ∧ Body style entries body rest

/-- The first character of a text that is not a blank, if it is not white space either. -/
def Fronts (x : Char) (text : List Char) : Prop :=
  Text.isSpace x = false ∧
    ∃ before after, (∀ y ∈ before, Text.isBlank y = true) ∧ text = before ++ x :: after

theorem Fronts.unique {x y : Char} {text : List Char} (hx : Fronts x text) (hy : Fronts y text) :
    x = y := by
  have hdrop : ∀ z, Fronts z text → (text.dropWhile Text.isBlank).head? = some z := by
    rintro z ⟨hspace, before, after, hbefore, rfl⟩
    have hstops : Text.Stops Text.isSpace (z :: after) := Text.stops_cons.mpr hspace
    rw [Text.dropWhile_append_of_stops hbefore hstops.blank]
    rfl
  exact Option.some.inj ((hdrop x hx).symm.trans (hdrop y hy))

theorem Fronts.mem_line {x : Char} {line text rest : List Char} (hx : Fronts x text)
    (hline : Line line text rest) : x ∈ line := by
  obtain ⟨hspace, before, after, hbefore, rfl⟩ := hx
  obtain ⟨others, more, hothers⟩ := exists_line after
  have hnot : '\n' ∉ before ++ [x] := by
    intro hmem
    rcases List.mem_append.mp hmem with hmem | hmem
    · exact Text.lineFeed_not_mem hbefore hmem
    · cases List.mem_singleton.mp hmem
      cases hspace
  have htext : before ++ x :: after = before ++ [x] ++ after := by simp
  rw [htext] at hline
  rw [(hline.unique (hothers.prepend hnot)).1]
  simp

theorem fronts_of_line {x : Char} {before others text rest : List Char}
    (hbefore : ∀ y ∈ before, Text.isBlank y = true) (hx : Text.isSpace x = false)
    (hline : Line (before ++ x :: others) text rest) : Fronts x text := by
  obtain ⟨more, rfl, hmore⟩ := hline.exists_text
  obtain ⟨after, rfl, -⟩ : ∃ after, more = [x] ++ after ∧ Line others after rest :=
    Line.exists_text hmore
  exact ⟨hx, before, after, hbefore, rfl⟩

/-- The characters that an item may begin with tell the kinds of items apart. -/
def Item.begins : Item → Char → Bool
  | empty, _ => false
  | closing _, x => x == ':' || x == '<' || x == '?'
  | comment _, x => x == '/' || x == '#'
  | entry _, x => x.isAlpha || x == '£'

theorem Item.begins_closing {m : Marker} {x : Char} (h : (closing m).begins x = true) :
    (∀ text, (comment text).begins x = false) ∧ ∀ found, (entry found).begins x = false := by
  simp only [begins, Bool.or_eq_true, beq_iff_eq] at h
  rcases h with (rfl | rfl) | rfl <;> exact ⟨fun _ => rfl, fun _ => rfl⟩

theorem Item.begins_comment {text : String} {x : Char} (h : (comment text).begins x = true) :
    ∀ found, (entry found).begins x = false := by
  simp only [begins, Bool.or_eq_true, beq_iff_eq] at h
  rcases h with rfl | rfl <;> exact fun _ => rfl

theorem Spells.exists_front {found : Item} {text rest : List Char} (h : Spells found text rest)
    (hne : found ≠ .empty) : ∃ x, found.begins x = true ∧ Fronts x text := by
  cases h with
  | empty => exact absurd rfl hne
  | @closing style _ _ hmarker =>
    obtain ⟨before, after, hbefore, -, hline⟩ := hmarker
    cases style with
    | colon => exact ⟨':', rfl, fronts_of_line hbefore rfl hline⟩
    | tag => exact ⟨'<', rfl, fronts_of_line hbefore rfl hline⟩
    | processing => exact ⟨'?', rfl, fronts_of_line hbefore rfl hline⟩
  | comment hbefore hmark _ _ hline =>
    rcases hmark with rfl | rfl
    · exact ⟨'/', rfl, fronts_of_line hbefore rfl hline⟩
    · exact ⟨'#', rfl, fronts_of_line hbefore rfl hline⟩
  | @entry key value before mark between gap _ more _ hbefore hmark hkey _ _ _ htext _ =>
    rcases hmark with rfl | rfl
    · obtain ⟨first, others, hname, halpha, -⟩ := hkey
      rw [hname] at htext
      have hspace := Text.isSpace_of_isAlpha halpha
      exact ⟨first, by simp [Item.begins, halpha], hspace, before, _, hbefore, htext⟩
    · exact ⟨'£', rfl, rfl, before, _, hbefore, htext⟩

/-- No text is two items that begin with different characters. -/
theorem Spells.false_of_begins {found other : Item} {text rest rest' : List Char}
    (h : Spells found text rest) (h' : Spells other text rest') (hne : found ≠ .empty)
    (hne' : other ≠ .empty) (hbegins : ∀ x, found.begins x = true → other.begins x = false) :
    False := by
  obtain ⟨x, hx, hfront⟩ := h.exists_front hne
  obtain ⟨y, hy, hfront'⟩ := h'.exists_front hne'
  cases hfront.unique hfront'
  cases hy.symm.trans (hbegins x hx)

theorem Spells.not_empty_line {found : Item} {line text rest rest' : List Char}
    (h : Spells found text rest) (hne : found ≠ .empty) (hline : Line line text rest') :
    ¬ ∀ x ∈ line, Text.isSpace x = true := by
  intro hspace
  obtain ⟨x, -, hfront⟩ := h.exists_front hne
  have hnot := hspace x (hfront.mem_line hline)
  rw [hfront.1] at hnot
  cases hnot

/-- A block is never closed by the end of the text. -/
theorem Body.ne_nil {style : Style} {entries : List Entry} {text rest : List Char}
    (h : Body style entries text rest) : text ≠ [] := by
  induction h with
  | close h =>
    rintro rfl
    exact Spells.not_empty_line (.closing h) (by simp) ⟨by simp, .inr ⟨rfl, rfl⟩⟩ (by simp)
  | empty h _ ih =>
    rintro rfl
    cases h with
    | empty hline hspace =>
      obtain ⟨-, hend | ⟨-, rfl⟩⟩ := hline
      · simp at hend
      · exact ih rfl
  | comment h | entry h =>
    rintro rfl
    exact Spells.not_empty_line h (by simp) ⟨by simp, .inr ⟨rfl, rfl⟩⟩ (by simp)

end StaticPages.Metadata
