import StaticPages.Proofs.Document.Grammar

namespace StaticPages.Metadata

open Token

theorem isEmptyLine_restOfLine {line rest : List Char} {c : Cursor}
    (h : Line line c.ahead rest) :
    isEmptyLine (restOfLine c).1 = true ↔ ∀ x ∈ line, Text.isSpace x = true := by
  rw [(restOfLine_of_line h).1]
  exact isEmptyLine_withoutReturn

/-- Whether a token is not empty and has no white space in it. -/
def Solid (token : String) : Prop :=
  token.toList ≠ [] ∧ ∀ x ∈ token.toList, Text.isSpace x = false

theorem solid_of_mem_openers : ∀ m ∈ openers, Solid m.token := by
  simp [openers, Solid, Text.isSpace]

theorem solid_of_mem_closers : ∀ m ∈ closers, Solid m.token := by
  simp [closers, Solid, Text.isSpace]

theorem Solid.stops {token : String} (h : Solid token) (cs : List Char) :
    Text.Stops Text.isSpace (token.toList ++ cs) := by
  obtain ⟨hne, hspace⟩ := h
  obtain ⟨x, xs, hx⟩ := List.exists_cons_of_ne_nil hne
  rw [hx]
  exact Text.stops_cons.mpr (hspace x (by simp [hx]))

theorem markerLine_iff {token : String} (hsolid : Solid token) {text rest : List Char} :
    MarkerLine token text rest ↔ ∃ before more after, text = before ++ (token.toList ++ more) ∧
      (∀ x ∈ before, Text.isBlank x = true) ∧ Line after more rest ∧
        ∀ x ∈ after, Text.isSpace x = true := by
  constructor
  · rintro ⟨before, after, hbefore, hafter, hline⟩
    obtain ⟨tail, rfl, htail⟩ := hline.exists_text
    obtain ⟨more, rfl, hmore⟩ := htail.exists_text
    exact ⟨before, more, after, rfl, hbefore, hmore, hafter⟩
  · rintro ⟨before, more, after, rfl, hbefore, hline, hafter⟩
    have htoken : '\n' ∉ token.toList := fun hmem => nomatch hsolid.2 _ hmem
    have hwhole := (hline.prepend htoken).prepend (Text.lineFeed_not_mem hbefore)
    exact ⟨before, after, hbefore, hafter, hwhole⟩

/-- Only one token can stand alone on a line. -/
theorem MarkerLine.unique {token other : String} {text rest rest' : List Char}
    (h : MarkerLine token text rest) (h' : MarkerLine other text rest') (hsolid : Solid token)
    (hsolid' : Solid other) : token = other ∧ rest = rest' := by
  obtain ⟨before, after, hbefore, hafter, hline⟩ := h
  obtain ⟨before', after', hbefore', hafter', hline'⟩ := h'
  obtain ⟨hsame, hrest⟩ := hline.unique hline'
  refine ⟨String.toList_inj.mp ?_, hrest⟩
  rw [← Text.trimChars_enclosed hsolid.2
      (fun x hx => Text.isSpace_of_isBlank (hbefore x hx)) hafter, hsame,
    Text.trimChars_enclosed hsolid'.2
      (fun x hx => Text.isSpace_of_isBlank (hbefore' x hx)) hafter']

theorem Marker.line_reads {m : Marker} (hsolid : Solid m.token) {rest : List Char} {c : Cursor}
    (h : MarkerLine m.token c.ahead rest) : ∃ d, m.line c = some (m, d) ∧ d.ahead = rest := by
  obtain ⟨before, more, after, hahead, hbefore, hline, hafter⟩ := (markerLine_iff hsolid).mp h
  have hskip : c.skipBlanks.ahead = m.token.toList ++ more :=
    Cursor.ahead_skipWhile hahead hbefore (hsolid.stops more).blank
  obtain ⟨d, hd, rfl⟩ := Cursor.exists_after? hskip
  refine ⟨(restOfLine d).2, ?_, (restOfLine_of_line hline).2⟩
  simp only [Marker.line, hd, (isEmptyLine_restOfLine hline).mpr hafter, if_true]

theorem Marker.markerLine_of_line {m found : Marker} (hsolid : Solid m.token) {c d : Cursor}
    (h : m.line c = some (found, d)) : found = m ∧ MarkerLine m.token c.ahead d.ahead := by
  unfold Marker.line at h
  split at h
  · cases h
  · next marked hmarked =>
    dsimp only at h
    split at h
    · next hempty =>
      cases h
      obtain ⟨before, hahead, hbefore⟩ := Cursor.exists_skipWhile Text.isBlank c
      obtain ⟨after, rest, hline⟩ := exists_line marked.ahead
      rw [isEmptyLine_restOfLine hline] at hempty
      rw [(restOfLine_of_line hline).2, markerLine_iff hsolid]
      refine ⟨rfl, before, marked.ahead, after, ?_, hbefore, hline, hempty⟩
      rw [← Cursor.ahead_of_after? hmarked]
      exact hahead
    · cases h

section Markers

variable {markers : List Marker} (hsolid : ∀ m ∈ markers, Solid m.token)

include hsolid

/-- The order of the markers does not matter: one that stands alone on its line is found,
    even if another is its beginning. -/
theorem markerLine_reads
    (hinj : ∀ m ∈ markers, ∀ other ∈ markers, other.token = m.token → other = m) {m : Marker}
    (hm : m ∈ markers) {rest : List Char} {c : Cursor} (h : MarkerLine m.token c.ahead rest) :
    ∃ d, markerLine markers c = some (m, d) ∧ d.ahead = rest := by
  obtain ⟨d, hd, -⟩ := Marker.line_reads (hsolid m hm) h
  cases hfound : markerLine markers c with
  | none =>
    have hnone := List.findSome?_eq_none_iff.mp hfound m hm
    cases hd.symm.trans hnone
  | some found =>
    obtain ⟨other, hother, hline⟩ := List.exists_of_findSome?_eq_some hfound
    obtain ⟨hsame, hmarker⟩ := Marker.markerLine_of_line (hsolid other hother) hline
    obtain ⟨htoken, hrest⟩ := hmarker.unique h (hsolid other hother) (hsolid m hm)
    obtain ⟨marker, e⟩ := found
    cases hsame.trans (hinj m hm other hother htoken)
    exact ⟨e, rfl, hrest⟩

theorem markerLine_of_eq_some {found : Marker} {c d : Cursor}
    (h : markerLine markers c = some (found, d)) :
    found ∈ markers ∧ MarkerLine found.token c.ahead d.ahead := by
  obtain ⟨m, hm, hline⟩ := List.exists_of_findSome?_eq_some h
  obtain ⟨rfl, hmarker⟩ := Marker.markerLine_of_line (hsolid m hm) hline
  exact ⟨hm, hmarker⟩

end Markers

theorem exists_afterMark {mark : String} {rest : List Char} {c : Cursor}
    (h : c.ahead = mark.toList ++ rest) (hmark : mark = "//" ∨ mark = "#") :
    ∃ d, (c.after? "//" <|> c.after? "#") = some d ∧ d.ahead = rest := by
  obtain ⟨d, hd, hrest⟩ := Cursor.exists_after? h
  refine ⟨d, ?_, hrest⟩
  rcases hmark with rfl | rfl
  · rw [hd]
    rfl
  · have hslash : c.after? "//" = none := by
      rw [Cursor.after?_eq_none_iff, h]
      intro others hother
      cases hother
    rw [hslash, hd]
    rfl

theorem exists_mark_of_after {c d : Cursor} (h : (c.after? "//" <|> c.after? "#") = some d) :
    ∃ mark, (mark = "//" ∨ mark = "#") ∧ c.ahead = mark.toList ++ d.ahead := by
  cases hslash : c.after? "//" with
  | some found =>
    rw [hslash] at h
    cases h
    exact ⟨"//", .inl rfl, Cursor.ahead_of_after? hslash⟩
  | none =>
    rw [hslash] at h
    exact ⟨"#", .inr rfl, Cursor.ahead_of_after? h⟩

/-- A comment is read from its mark to the end of its line. -/
theorem comment_reads {text : String} {rest : List Char} {c : Cursor}
    (h : Spells (.comment text) c.ahead rest) : Parser.Reads comment c text rest := by
  cases h with
  | @comment mark before between remark _ _ hbefore hmark hbetween hremark hline =>
    obtain ⟨tail, hahead, htail⟩ := hline.exists_text
    obtain ⟨more, rfl, hmore⟩ := htail.exists_text
    obtain ⟨line, rfl, hline⟩ := hmore.exists_text
    have hfront : Text.Stops Text.isBlank (mark.toList ++ (between ++ line)) := by
      rcases hmark with rfl | rfl <;> exact Text.stops_cons.mpr rfl
    have hskip : c.skipBlanks.ahead = mark.toList ++ (between ++ line) :=
      Cursor.ahead_skipWhile hahead hbefore hfront
    obtain ⟨marked, hmarked, hnext⟩ := exists_afterMark hskip hmark
    have hstart : marked.skipBlanks.ahead = line :=
      Cursor.ahead_skipWhile hnext hbetween ((hline.stops_iff rfl).mpr hremark)
    rw [← hstart] at hline
    obtain ⟨hvalue, hrest⟩ := restOfLine_of_line hline
    refine ⟨(restOfLine marked.skipBlanks).2, ?_, hrest⟩
    simp only [comment, hmarked, hvalue, trimEnd_withoutReturn]

theorem spells_of_comment {text : String} {c d : Cursor} (h : comment c = .ok (text, d)) :
    Spells (.comment text) c.ahead d.ahead := by
  unfold comment at h
  dsimp only at h
  split at h
  · cases h
  · next marked hmarked =>
    simp only [Except.ok.injEq, Prod.mk.injEq] at h
    obtain ⟨rfl, rfl⟩ := h
    obtain ⟨mark, hmark, hstart⟩ := exists_mark_of_after hmarked
    obtain ⟨before, hahead, hbefore⟩ := Cursor.exists_skipWhile Text.isBlank c
    obtain ⟨between, hbetween, hblank⟩ := Cursor.exists_skipWhile Text.isBlank marked
    obtain ⟨line, rest, hline⟩ := exists_line marked.skipBlanks.ahead
    obtain ⟨hvalue, hrest⟩ := restOfLine_of_line hline
    rw [hvalue, trimEnd_withoutReturn, hrest]
    have hfeed : '\n' ∉ mark.toList := by
      rcases hmark with rfl | rfl <;> decide
    refine .comment hbefore hmark hblank ((hline.stops_iff rfl).mp (Cursor.stops_skipWhile _ _)) ?_
    rw [hahead, show c.skipWhile Text.isBlank = c.skipBlanks from rfl, hstart, hbetween]
    exact ((hline.prepend (Text.lineFeed_not_mem hblank)).prepend hfeed).prepend
      (Text.lineFeed_not_mem hbefore)

/-- A quoted value is read as it is written, a bare one without the white space at its
    end. -/
theorem value_reads {text : String} {rest : List Char} {c : Cursor}
    (h : ValueText text c.ahead rest) : Parser.Reads value c text rest := by
  cases h with
  | quoted htext hbody hline hafter =>
    have hhead : c.head? = some '"' := by simp [Cursor.head?, htext]
    obtain ⟨closed, hclosed, rfl⟩ := quotedString_reads htext hbody
    refine ⟨(restOfLine closed).2, ?_, (restOfLine_of_line hline).2⟩
    rw [String.ofList_toList] at hclosed
    simp only [value, if_pos hhead, hclosed, (isEmptyLine_restOfLine hline).mpr hafter, if_true]
  | bare hquote hline hvalue =>
    have hhead : c.head? ≠ some '"' := fun hhead =>
      hquote ((hline.head?_eq_some_iff (by decide)).mp hhead)
    obtain ⟨hread, hrest⟩ := restOfLine_of_line hline
    refine ⟨(restOfLine c).2, ?_, hrest⟩
    simp only [value, if_neg hhead, hread, trimEnd_withoutReturn, hvalue]

theorem valueText_of_value {text : String} {c d : Cursor} (h : value c = .ok (text, d)) :
    ValueText text c.ahead d.ahead := by
  unfold value at h
  split at h
  · split at h
    · cases h
    · next found after hfound =>
      dsimp only at h
      split at h
      · next hempty =>
        cases h
        obtain ⟨htext, hbody⟩ := exists_body_of_quotedString hfound
        obtain ⟨line, rest, hline⟩ := exists_line after.ahead
        rw [isEmptyLine_restOfLine hline] at hempty
        rw [(restOfLine_of_line hline).2]
        exact .quoted htext hbody hline hempty
      · cases h
  · next hhead =>
    simp only [Except.ok.injEq, Prod.mk.injEq] at h
    obtain ⟨rfl, rfl⟩ := h
    obtain ⟨line, rest, hline⟩ := exists_line c.ahead
    obtain ⟨hread, hrest⟩ := restOfLine_of_line hline
    rw [hread, hrest, trimEnd_withoutReturn]
    exact .bare (fun hquote => hhead ((hline.head?_eq_some_iff (by decide)).mpr hquote)) hline rfl

theorem ahead_afterSigil {mark name : List Char} {c : Cursor} (h : c.ahead = mark ++ name)
    (hmark : mark = [] ∨ mark = sigil.toList) (hname : name.head? ≠ some '£') :
    ((c.after? sigil).getD c).ahead = name := by
  rcases hmark with rfl | rfl
  · have hnone : c.after? sigil = none := by
      rw [Cursor.after?_eq_none_iff, h]
      rintro rest rfl
      exact hname rfl
    rw [hnone]
    exact h
  · obtain ⟨d, hd, rfl⟩ := Cursor.exists_after? h
    rw [hd]
    rfl

theorem exists_afterSigil (c : Cursor) : ∃ mark, (mark = [] ∨ mark = sigil.toList) ∧
    c.ahead = mark ++ ((c.after? sigil).getD c).ahead := by
  cases h : c.after? sigil with
  | none => exact ⟨[], .inl rfl, rfl⟩
  | some d => exact ⟨sigil.toList, .inr rfl, Cursor.ahead_of_after? h⟩

theorem stops_isNameChar {between : List Char} (h : ∀ x ∈ between, Text.isBlank x = true)
    (rest : List Char) : Text.Stops isNameChar (between ++ '=' :: rest) :=
  Text.stops_append (fun x hx => isNameChar_of_isBlank (h x hx)) (Text.stops_cons.mpr rfl)

/-- The key of an entry is read without the sigil and its value without the blanks after
    the equals sign. -/
theorem entry_reads {found : Entry} {rest : List Char} {c : Cursor}
    (h : Spells (.entry found) c.ahead rest) : Parser.Reads entry c found rest := by
  cases h with
  | @entry key text before mark between gap _ more _ hbefore hmark hkey hbetween hgap hmore htext
      hvalue =>
    obtain ⟨first, others, hname, halpha, hothers⟩ := hkey
    have hspace := Text.isSpace_of_isAlpha halpha
    have hstart : c.skipBlanks.ahead =
        mark ++ (key.toList ++ (between ++ '=' :: (gap ++ more))) := by
      refine Cursor.ahead_skipWhile htext hbefore (Text.Stops.blank ?_)
      rcases hmark with rfl | rfl
      · rw [hname]
        exact Text.stops_cons.mpr hspace
      · exact Text.stops_cons.mpr rfl
    have hfront : (key.toList ++ (between ++ '=' :: (gap ++ more))).head? ≠ some '£' := by
      rw [hname]
      rintro hhead
      cases hhead
      cases halpha
    obtain ⟨named, hnamed, hbetween'⟩ := identifier_reads (ahead_afterSigil hstart hmark hfront)
      ⟨first, others, hname, halpha, hothers⟩ (stops_isNameChar hbetween _)
    have hskip : named.skipBlanks.ahead = "=".toList ++ (gap ++ more) :=
      Cursor.ahead_skipWhile hbetween' hbetween (Text.stops_cons.mpr rfl)
    obtain ⟨equals, hequals, hahead⟩ := Cursor.exists_after? hskip
    have hvalueStart : equals.skipBlanks.ahead = more :=
      Cursor.ahead_skipWhile hahead hgap hmore
    rw [← hvalueStart] at hvalue
    obtain ⟨d, hd, hrest⟩ := value_reads hvalue
    refine ⟨d, ?_, hrest⟩
    rw [String.ofList_toList] at hnamed
    simp only [entry, hnamed, hequals, hd]

theorem spells_of_entry {found : Entry} {c d : Cursor} (h : entry c = .ok (found, d)) :
    Spells (.entry found) c.ahead d.ahead := by
  unfold entry at h
  dsimp only at h
  split at h
  · cases h
  · next key named hnamed =>
    split at h
    · cases h
    · next equals hequals =>
      split at h
      · cases h
      · next text rest hvalue =>
        cases h
        obtain ⟨before, hahead, hbefore⟩ := Cursor.exists_skipWhile Text.isBlank c
        obtain ⟨mark, hmark, hstart⟩ := exists_afterSigil c.skipBlanks
        obtain ⟨hkey, hname, -⟩ := exists_name_of_identifier hnamed
        obtain ⟨between, hbetween, hblank⟩ := Cursor.exists_skipWhile Text.isBlank named
        obtain ⟨gap, hgap, hgapBlank⟩ := Cursor.exists_skipWhile Text.isBlank equals
        have hmore := Cursor.stops_skipWhile Text.isBlank equals
        refine .entry hbefore hmark hkey hblank hgapBlank hmore ?_ (valueText_of_value hvalue)
        have hequalsAhead : (named.skipWhile Text.isBlank).ahead = '=' :: equals.ahead :=
          Cursor.ahead_of_after? hequals
        rw [← hgap, ← hequalsAhead, ← hbetween, ← hname, ← hstart]
        exact hahead

theorem spells_of_markerLine {found : Marker} {c d : Cursor}
    (h : markerLine closers c = some (found, d)) : Spells (.closing found) c.ahead d.ahead := by
  obtain ⟨hmem, hline⟩ := markerLine_of_eq_some solid_of_mem_closers h
  rw [mem_closers_iff] at hmem
  rw [hmem] at hline ⊢
  exact .closing hline

theorem item_reaches {c d : Cursor} {found : Item} (h : item c = .ok (found, d)) :
    c.Reaches d := by
  unfold item at h
  dsimp only at h
  split at h
  · cases h
    exact restOfLine_reaches c
  · split at h
    · next hmarker =>
      cases h
      exact markerLine_reaches hmarker
    · split at h
      · next hcomment =>
        cases h
        exact comment_reaches hcomment
      · split at h
        · next hentry =>
          cases h
          exact entry_reaches hentry
        · cases h

/-- What is read as an item is written as one. -/
theorem spells_of_item {found : Item} {c d : Cursor} (h : item c = .ok (found, d)) :
    Spells found c.ahead d.ahead := by
  obtain ⟨line, rest, hline⟩ := exists_line c.ahead
  unfold item at h
  dsimp only at h
  split at h
  · next hempty =>
    cases h
    rw [(restOfLine_of_line hline).2]
    exact .empty hline ((isEmptyLine_restOfLine hline).mp hempty)
  · split at h
    · next hmarker =>
      cases h
      exact spells_of_markerLine hmarker
    · split at h
      · next hcomment =>
        cases h
        exact spells_of_comment hcomment
      · split at h
        · next hentry =>
          cases h
          exact spells_of_entry hentry
        · cases h

/-- The order in which the kinds of items are tried does not matter: no text can be read
    as items of two kinds. -/
theorem item_reads {found : Item} {rest : List Char} {c : Cursor}
    (h : Spells found c.ahead rest) : Parser.Reads item c found rest := by
  have hempty : found ≠ .empty → ¬ isEmptyLine (restOfLine c).1 = true := fun hne => by
    obtain ⟨line, rest', hline⟩ := exists_line c.ahead
    rw [isEmptyLine_restOfLine hline]
    exact h.not_empty_line hne hline
  have hmarker : found ≠ .empty →
      (∀ m x, (Item.closing m).begins x = true → found.begins x = false) →
      markerLine closers c = none := fun hne hbegins => by
    cases hclosing : markerLine closers c with
    | none => rfl
    | some closing =>
      exact ((spells_of_markerLine hclosing).false_of_begins h (by simp) hne (hbegins _)).elim
  cases found with
  | empty =>
    cases h with
    | empty hline hspace =>
      refine ⟨(restOfLine c).2, ?_, (restOfLine_of_line hline).2⟩
      simp only [item, (isEmptyLine_restOfLine hline).mpr hspace, if_true]
  | closing marker =>
    have hline : marker ∈ closers ∧ MarkerLine marker.token c.ahead rest := by
      cases h with
      | closing hline => exact ⟨mem_closers_iff.mpr rfl, hline⟩
    obtain ⟨d, hd, hrest⟩ :=
      markerLine_reads solid_of_mem_closers (by decide) hline.1 hline.2
    refine ⟨d, ?_, hrest⟩
    simp only [item, if_neg (hempty (by simp)), hd]
  | comment text =>
    have hnone := hmarker (by simp) fun m x hx => (Item.begins_closing hx).1 text
    obtain ⟨d, hd, hrest⟩ := comment_reads h
    refine ⟨d, ?_, hrest⟩
    simp only [item, if_neg (hempty (by simp)), hnone, hd]
  | entry found =>
    have hnone := hmarker (by simp) fun m x hx => (Item.begins_closing hx).2 found
    obtain ⟨d, hd, hrest⟩ := entry_reads h
    refine ⟨d, ?_, hrest⟩
    cases hcomment : comment c with
    | ok read =>
      obtain ⟨text, after⟩ := read
      exact ((spells_of_comment hcomment).false_of_begins h (by simp) (by simp)
        fun x hx => Item.begins_comment hx found).elim
    | error f => simp only [item, if_neg (hempty (by simp)), hnone, hcomment, hd]

end StaticPages.Metadata
