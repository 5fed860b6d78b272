import StaticPages.Proofs.Document.Item

namespace StaticPages.Metadata

/-- The entries are those of the items up to the closing marker. -/
theorem body_of_entries {opener : Marker} {start c d : Cursor} {found : List Entry}
    (h : entries opener start c = .ok (found, d)) :
    Body opener.style found c.ahead d.ahead := by
  fun_induction entries opener start c generalizing found d with
  | case1 => cases h
  | case2 => cases h
  | case3 c hne marker rest hitem hstyle =>
    cases h
    cases spells_of_item hitem with
    | closing hline =>
      cases hstyle
      exact .close hline
  | case4 => cases h
  | case5 c hne first rest hitem others after hothers ih =>
    cases h
    exact .entry (spells_of_item hitem) (ih hothers)
  | case6 => cases h
  | case7 c hne rest hitem ih => exact .empty (spells_of_item hitem) (ih h)
  | case8 c hne text rest hitem ih => exact .comment (spells_of_item hitem) (ih h)

theorem entries_of_item {opener : Marker} {start c d : Cursor} {found : Item}
    (hne : c.ahead ≠ []) (h : item c = .ok (found, d)) :
    entries opener start c =
      match found with
      | .closing marker =>
        if marker.style = opener.style then .ok ([], d)
        else c.skipBlanks.refuseAs .malformedMetadataBlock
          (.markerMismatch opener.token marker.token)
      | .entry first =>
        match entries opener start d with
        | .ok (others, after) => .ok (first :: others, after)
        | .error f => .error f
      | .empty | .comment _ => entries opener start d := by
  rw [entries, dif_neg hne]
  split
  · next hitem => cases h.symm.trans hitem
  all_goals
    next hitem =>
      cases h.symm.trans hitem
      rfl

/-- A body is read whatever comes after its closing marker. -/
theorem entries_reads {opener : Marker} {start c : Cursor} {found : List Entry}
    {rest : List Char} (h : Body opener.style found c.ahead rest) :
    ∃ d, entries opener start c = .ok (found, d) ∧ d.ahead = rest := by
  generalize htext : c.ahead = text at h
  induction h generalizing c with
  | close h =>
    have hne := (Body.close h).ne_nil
    rw [← htext] at h hne
    obtain ⟨d, hd, hrest⟩ := item_reads (.closing h)
    exact ⟨d, by rw [entries_of_item hne hd]; exact if_pos rfl, hrest⟩
  | empty h hmore ih =>
    have hne := (Body.empty h hmore).ne_nil
    rw [← htext] at h hne
    obtain ⟨d, hd, hahead⟩ := item_reads h
    rw [entries_of_item hne hd]
    exact ih hahead
  | comment h hmore ih =>
    have hne := (Body.comment h hmore).ne_nil
    rw [← htext] at h hne
    obtain ⟨d, hd, hahead⟩ := item_reads h
    rw [entries_of_item hne hd]
    exact ih hahead
  | entry h hmore ih =>
    have hne := (Body.entry h hmore).ne_nil
    rw [← htext] at h hne
    obtain ⟨d, hd, hahead⟩ := item_reads h
    obtain ⟨e, he, hrest⟩ := ih hahead
    exact ⟨e, by rw [entries_of_item hne hd]; simp only [he], hrest⟩

theorem entries_reaches {opener : Marker} {start c d : Cursor} {found : List Entry}
    (h : entries opener start c = .ok (found, d)) : c.Reaches d := by
  fun_induction entries opener start c generalizing found d with
  | case1 | case2 => cases h
  | case3 c hne marker rest hitem hstyle =>
    cases h
    exact item_reaches hitem
  | case4 => cases h
  | case5 c hne first rest hitem others after hothers ih =>
    cases h
    exact (item_reaches hitem).trans (ih hothers)
  | case6 => cases h
  | case7 c hne rest hitem ih => exact (item_reaches hitem).trans (ih h)
  | case8 c hne text rest hitem ih => exact (item_reaches hitem).trans (ih h)

/-- Once a block is open, whatever fails makes it malformed. -/
theorem kind_of_entries {opener : Marker} {start c : Cursor} {f : Failure}
    (h : entries opener start c = .error f) : f.kind = some .malformedMetadataBlock := by
  fun_induction entries opener start c generalizing f with
  | case1 => cases h; rfl
  | case2 => cases h; rfl
  | case3 => cases h
  | case4 => cases h; rfl
  | case5 => cases h
  | case6 c hne first rest hitem f' hothers ih =>
    cases h
    exact ih hothers
  | case7 c hne rest hitem ih => exact ih h
  | case8 c hne text rest hitem ih => exact ih h

theorem opening_of_markerLine {opener : Marker} {c d : Cursor}
    (h : markerLine openers c.skipSpace = some (opener, d)) :
    Opening opener.style c.ahead d.ahead := by
  obtain ⟨hmem, hline⟩ := markerLine_of_eq_some solid_of_mem_openers h
  obtain ⟨space, hahead, hspace⟩ := Cursor.exists_skipWhile Text.isSpace c
  exact ⟨space, _, opener.token, hahead, hspace, mem_openers_iff.mp hmem, hline⟩

theorem opening_reads {style : Style} {rest : List Char} {c : Cursor}
    (h : Opening style c.ahead rest) :
    ∃ token d, markerLine openers c.skipSpace = some (⟨token, style⟩, d) ∧ d.ahead = rest := by
  obtain ⟨space, line, token, hahead, hspace, htoken, hmarker⟩ := h
  have hmem : ⟨token, style⟩ ∈ openers := mem_openers_iff.mpr htoken
  have hsolid : Solid token := solid_of_mem_openers _ hmem
  obtain ⟨before, more, after, rfl, hbefore, hline, hafter⟩ := (markerLine_iff hsolid).mp hmarker
  have hskip : c.skipSpace.ahead = token.toList ++ more := by
    apply Cursor.ahead_skipWhile (hahead.trans (List.append_assoc space before _).symm) _
      (hsolid.stops more)
    intro x hx
    rcases List.mem_append.mp hx with hx | hx
    · exact hspace x hx
    · exact Text.isSpace_of_isBlank (hbefore x hx)
  have hstart : MarkerLine token c.skipSpace.ahead rest := by
    rw [hskip, markerLine_iff hsolid]
    exact ⟨[], more, after, rfl, by simp, hline, hafter⟩
  obtain ⟨d, hd, hrest⟩ := markerLine_reads solid_of_mem_openers (by decide) hmem hstart
  exact ⟨token, d, hd, hrest⟩

theorem markerLine_eq_none_iff {c : Cursor} :
    markerLine openers c.skipSpace = none ↔ ¬ ∃ style rest, Opening style c.ahead rest := by
  constructor
  · rintro hnone ⟨style, rest, hopening⟩
    obtain ⟨token, d, hd, -⟩ := opening_reads hopening
    cases hd.symm.trans hnone
  · intro hopening
    cases hmarker : markerLine openers c.skipSpace with
    | none => rfl
    | some opened => exact absurd ⟨_, _, opening_of_markerLine hmarker⟩ hopening

/-- A block is absent, or its opening marker is followed by entries or by an error. -/
theorem block_cases (c : Cursor) :
    (markerLine openers c.skipSpace = none ∧ block c = .ok (none, c)) ∨
      ∃ opener body, markerLine openers c.skipSpace = some (opener, body) ∧
        ((∃ f, entries opener c.skipSpace body = .error f ∧ block c = .error f) ∨
          ∃ found d, entries opener c.skipSpace body = .ok (found, d) ∧
            block c = .ok (some found, d)) := by
  cases hmarker : markerLine openers c.skipSpace with
  | none => exact .inl ⟨rfl, by simp only [block, hmarker]⟩
  | some opened =>
    obtain ⟨opener, body⟩ := opened
    refine .inr ⟨opener, body, rfl, ?_⟩
    cases hentries : entries opener c.skipSpace body with
    | error f => exact .inl ⟨f, rfl, by simp only [block, hmarker, hentries]⟩
    | ok read => exact .inr ⟨read.1, read.2, rfl, by simp only [block, hmarker, hentries]⟩

theorem block_reads {found : List Entry} {rest : List Char} {c : Cursor}
    (h : Block found c.ahead rest) : Parser.Reads block c (some found) rest := by
  obtain ⟨style, body, hopening, hbody⟩ := h
  obtain ⟨token, d, hd, rfl⟩ := opening_reads hopening
  obtain ⟨e, he, hrest⟩ : ∃ e, entries ⟨token, style⟩ c.skipSpace d = .ok (found, e) ∧
      e.ahead = rest := entries_reads hbody
  exact ⟨e, by simp only [block, hd, he], hrest⟩

theorem block_eq_some {c d : Cursor} {found : List Entry} (h : block c = .ok (some found, d)) :
    c.Reaches d ∧ Block found c.ahead d.ahead := by
  obtain ⟨-, hblock⟩ | ⟨opener, body, hmarker, ⟨f, -, hblock⟩ | ⟨read, e, hentries, hblock⟩⟩ :=
    block_cases c
  · cases h.symm.trans hblock
  · cases h.symm.trans hblock
  · cases h.symm.trans hblock
    have hbody := (markerLine_reaches hmarker).trans (entries_reaches hentries)
    exact ⟨(Cursor.reaches_skipSpace c).trans hbody, opener.style, body.ahead,
      opening_of_markerLine hmarker, body_of_entries hentries⟩

theorem block_eq_none_iff {c d : Cursor} :
    block c = .ok (none, d) ↔ d = c ∧ ¬ ∃ style rest, Opening style c.ahead rest := by
  rw [← markerLine_eq_none_iff]
  obtain ⟨hmarker, hblock⟩ | ⟨opener, body, hmarker, ⟨f, -, hblock⟩ | ⟨found, e, -, hblock⟩⟩ :=
    block_cases c
  · simp [hblock, hmarker, eq_comm]
  · simp [hblock, hmarker]
  · simp [hblock, hmarker]

/-- Only a text that opens a block can fail to be one. -/
theorem block_eq_error {c : Cursor} {f : Failure} (h : block c = .error f) :
    f.kind = some .malformedMetadataBlock ∧ ∃ style rest, Opening style c.ahead rest := by
  obtain ⟨-, hblock⟩ | ⟨opener, body, hmarker, ⟨e, hentries, hblock⟩ | ⟨found, e, -, hblock⟩⟩ :=
    block_cases c
  · cases h.symm.trans hblock
  · cases h.symm.trans hblock
    exact ⟨kind_of_entries hentries, opener.style, body.ahead, opening_of_markerLine hmarker⟩
  · cases h.symm.trans hblock

/-- The parser of a metadata block accepts exactly its grammar. It passes over nothing
    exactly if no line at the cursor opens a block, and a text that opens a block without
    being one is malformed. -/
theorem block_spec (c : Cursor) :
    (∀ found d, block c = .ok (some found, d) ↔ c.Reaches d ∧ Block found c.ahead d.ahead) ∧
      (∀ d, block c = .ok (none, d) ↔ d = c ∧ ¬ ∃ style rest, Opening style c.ahead rest) ∧
      (∀ f, block c = .error f → f.kind = some .malformedMetadataBlock) ∧
      ((∃ f, block c = .error f) ↔ (∃ style rest, Opening style c.ahead rest) ∧
        ¬ ∃ found rest, Block found c.ahead rest) := by
  refine ⟨fun found d => ⟨block_eq_some, ?_⟩, fun d => block_eq_none_iff,
    fun f hf => (block_eq_error hf).1, ?_, ?_⟩
  · rintro ⟨hreaches, hblock⟩
    obtain ⟨e, he, hahead⟩ := block_reads hblock
    rw [he, (block_eq_some he).1.eq_of_ahead hreaches hahead]
  · rintro ⟨f, hf⟩
    refine ⟨(block_eq_error hf).2, ?_⟩
    rintro ⟨found, rest, hblock⟩
    obtain ⟨d, hd, -⟩ := block_reads hblock
    cases hf.symm.trans hd
  · rintro ⟨hopening, hnot⟩
    cases hblock : block c with
    | error f => exact ⟨f, rfl⟩
    | ok read =>
      obtain ⟨found, d⟩ := read
      cases found with
      | none => exact absurd hopening (block_eq_none_iff.mp hblock).2
      | some found => exact absurd ⟨found, d.ahead, (block_eq_some hblock).2⟩ hnot

end StaticPages.Metadata
