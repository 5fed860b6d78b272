import Mathlib.Data.List.Forall2
import StaticPages.Proofs.Document.Block
import StaticPages.Proofs.Source.Agreement

namespace StaticPages

variable {R : List Char → List Char → Prop}

/-- Whether two entries have one key and the same or related values. -/
def Entry.Same (R : List Char → List Char → Prop) (a b : Entry) : Prop :=
  a.key = b.key ∧ SameText R a.value b.value

namespace Metadata

open Token

/-- Whether two items are of one kind and the same but for the values of entries. -/
inductive Item.Same (R : List Char → List Char → Prop) : Item → Item → Prop
  | empty : Same R .empty .empty
  | closing (marker : Marker) : Same R (.closing marker) (.closing marker)
  | comment (text : String) : Same R (.comment text) (.comment text)
  | entry {a b : Entry} (h : a.Same R b) : Same R (.entry a) (.entry b)

theorem unbroken_of_mem_closers : ∀ m ∈ closers, Unbroken m.token.toList := by
  decide

theorem unbroken_of_mem_openers : ∀ m ∈ openers, Unbroken m.token.toList := by
  decide

section Lexical

variable (hR : Lexical R) {c d : Cursor}

include hR

theorem Marker.line_cases {m : Marker} (htoken : Unbroken m.token.toList)
    (h : R c.ahead d.ahead) :
    (m.line c = none ∧ m.line d = none) ∨
      ∃ e f, m.line c = some (m, e) ∧ m.line d = some (m, f) ∧ c.Abreast R d e f := by
  have hblanks := Cursor.abreast_skipBlanks hR h
  unfold Marker.line
  obtain ⟨hc, hd⟩ | ⟨e, f, hc, hd, hmarked⟩ := Cursor.after?_cases hR _ htoken hblanks.ahead
  · exact .inl ⟨by rw [hc], by rw [hd]⟩
  · obtain ⟨hline, hrest⟩ := restOfLine_agree hR hmarked.ahead
    simp only [hc, hd, hline]
    split
    · exact .inr ⟨_, _, rfl, rfl, (hblanks.trans hmarked).trans hrest⟩
    · exact .inl ⟨rfl, rfl⟩

theorem markerLine_cases {markers : List Marker}
    (htokens : ∀ m ∈ markers, Unbroken m.token.toList) (h : R c.ahead d.ahead) :
    (markerLine markers c = none ∧ markerLine markers d = none) ∨
      ∃ m e f, markerLine markers c = some (m, e) ∧ markerLine markers d = some (m, f) ∧
        c.Abreast R d e f := by
  induction markers with
  | nil => exact .inl ⟨rfl, rfl⟩
  | cons m markers ih =>
    simp only [markerLine, List.findSome?_cons] at ih ⊢
    obtain ⟨hc, hd⟩ | ⟨e, f, hc, hd, hrest⟩ := Marker.line_cases hR (htokens m (by simp)) h
    · simpa only [hc, hd] using ih fun other hother => htokens other (by simp [hother])
    · exact .inr ⟨m, e, f, by simp only [hc], by simp only [hd], hrest⟩

theorem afterMark_cases (h : R c.ahead d.ahead) :
    ((c.after? "//" <|> c.after? "#") = none ∧ (d.after? "//" <|> d.after? "#") = none) ∨
      ∃ e f, (c.after? "//" <|> c.after? "#") = some e ∧
        (d.after? "//" <|> d.after? "#") = some f ∧ c.Abreast R d e f := by
  obtain ⟨hc, hd⟩ | ⟨e, f, hc, hd, hrest⟩ :=
    Cursor.after?_cases hR "//" (by decide) h
  · simpa only [hc, hd, Option.orElse_eq_orElse, Option.orElse_eq_or, Option.none_or] using
      Cursor.after?_cases hR "#" (by decide) h
  · exact .inr ⟨e, f, by simp [hc], by simp [hd], hrest⟩

theorem comment_agree (h : R c.ahead d.ahead) : Agree R Eq c d (comment c) (comment d) := by
  have hblanks := Cursor.abreast_skipBlanks hR h
  unfold comment
  obtain ⟨hc, hd⟩ | ⟨e, f, hc, hd, hmarked⟩ := afterMark_cases hR hblanks.ahead
  · simp only [hc, hd]
    exact .refuse (.refl h) _
  · have htext := Cursor.abreast_skipBlanks hR hmarked.ahead
    obtain ⟨hline, hrest⟩ := restOfLine_agree hR htext.ahead
    simp only [hc, hd, hline]
    exact .read rfl (((hblanks.trans hmarked).trans htext).trans hrest)

theorem value_agree (h : R c.ahead d.ahead) :
    Agree R (SameText R) c d (value c) (value d) := by
  have hquote : c.head? = some '"' ↔ d.head? = some '"' :=
    hR.head?_eq_some_iff h (by decide) (by decide)
  unfold value
  by_cases hhead : c.head? = some '"'
  · rw [if_pos hhead, if_pos (hquote.mp hhead)]
    obtain ⟨a, b, e, f, hc, hd, hvalue, hclosed⟩ | ⟨failure, other, hc, hd, hfails⟩ :=
      (quotedString_agree hR h).cases
    · obtain ⟨hline, hrest⟩ := restOfLine_agree hR hclosed.ahead
      simp only [hc, hd, hline]
      split
      · exact .read hvalue (hclosed.trans hrest)
      · exact .refuse (hclosed.trans (Cursor.abreast_skipBlanks hR hclosed.ahead)) _
    · simp only [hc, hd]
      exact .refused hfails
  · rw [if_neg hhead, if_neg (mt hquote.mpr hhead)]
    obtain ⟨hline, hrest⟩ := restOfLine_agree hR h
    simp only [hline]
    exact .read (.inl rfl) hrest

theorem abreast_afterSigil (h : R c.ahead d.ahead) :
    c.Abreast R d ((c.after? sigil).getD c) ((d.after? sigil).getD d) := by
  obtain ⟨hc, hd⟩ | ⟨e, f, hc, hd, hrest⟩ := Cursor.after?_cases hR sigil (by decide) h
  · rw [hc, hd]
    exact .refl h
  · rw [hc, hd]
    exact hrest

theorem entry_agree (h : R c.ahead d.ahead) :
    Agree R (Entry.Same R) c d (entry c) (entry d) := by
  have hblanks := Cursor.abreast_skipBlanks hR h
  have hstart := hblanks.trans (abreast_afterSigil hR hblanks.ahead)
  unfold entry
  obtain ⟨key, _, e, f, hc, hd, rfl, hnamed⟩ | ⟨failure, other, hc, hd, hfails⟩ :=
    (identifier_agree hR hstart.ahead).cases
  · have hskip := (hstart.trans hnamed).trans (Cursor.abreast_skipBlanks hR hnamed.ahead)
    simp only [hc, hd]
    obtain ⟨he, hf⟩ | ⟨e', f', he, hf, hequals⟩ :=
      Cursor.after?_cases hR "=" (by decide) hskip.ahead
    · simp only [he, hf]
      exact .refuse hskip _
    · have hgap := Cursor.abreast_skipBlanks hR hequals.ahead
      have hplaces := (hskip.trans hequals).trans hgap
      simp only [he, hf]
      obtain ⟨a, b, e'', f'', hx, hy, hvalue, hrest⟩ | ⟨failure, other, hx, hy, hfails⟩ :=
        (value_agree hR hgap.ahead).cases
      · simp only [hx, hy]
        exact .read ⟨rfl, hvalue⟩ (hplaces.trans hrest)
      · simp only [hx, hy]
        exact .refused (hfails.behind hplaces)
  · simp only [hc, hd]
    exact .refused (hfails.behind hstart)

theorem item_agree (h : R c.ahead d.ahead) : Agree R (Item.Same R) c d (item c) (item d) := by
  obtain ⟨hline, hrest⟩ := restOfLine_agree hR h
  unfold item
  simp only [hline]
  split
  · exact .read .empty hrest
  · obtain ⟨hc, hd⟩ | ⟨m, e, f, hc, hd, hmarker⟩ :=
      markerLine_cases hR unbroken_of_mem_closers h
    · simp only [hc, hd]
      obtain ⟨a, _, e, f, hc, hd, rfl, hcomment⟩ | ⟨failure, other, hc, hd, -⟩ :=
        (comment_agree hR h).cases
      · simp only [hc, hd]
        exact .read (.comment a) hcomment
      · simp only [hc, hd]
        obtain ⟨a, b, e, f, hc, hd, hentry, hrest⟩ | ⟨failure, other, hc, hd, hfails⟩ :=
          (entry_agree hR h).cases
        · simp only [hc, hd]
          exact .read (.entry hentry) hrest
        · simp only [hc, hd]
          exact .refused hfails
    · simp only [hc, hd]
      exact .read (.closing m) hmarker

omit hR in
theorem entries_of_refused {opener : Marker} {start : Cursor} {f : Failure} (hne : c.ahead ≠ [])
    (h : item c = .error f) :
    entries opener start c = .error { f with kind := some .malformedMetadataBlock } := by
  rw [entries, dif_neg hne]
  split
  · next hitem =>
    cases h.symm.trans hitem
    rfl
  all_goals
    next hitem => cases h.symm.trans hitem

/-- What follows one item of a block when the same stands at a place abreast. -/
theorem exists_item {found : Item} {base base' e : Cursor} (hitem : item c = .ok (found, e))
    (hne : c.ahead ≠ []) (h : base.Abreast R base' c d) :
    d.ahead ≠ [] ∧ ∃ other f, item d = .ok (other, f) ∧ found.Same R other ∧
      base.Abreast R base' e f := by
  refine ⟨mt (hR.nil_iff h.ahead).mpr hne, ?_⟩
  obtain ⟨a, b, e', f, hc, hd, hsame, hrest⟩ | ⟨failure, other, hc, -⟩ :=
    (item_agree hR h.ahead).cases
  · cases hitem.symm.trans hc
    exact ⟨b, f, hd, hsame, h.trans hrest⟩
  · cases hitem.symm.trans hc

/-- Blocks agree item by item, and their refusals wherever the blocks began. -/
theorem entries_agree (opener : Marker) {base base' start start' : Cursor}
    (hstart : base.Abreast R base' start start') (h : base.Abreast R base' c d) :
    Agree R (List.Forall₂ (Entry.Same R)) base base' (entries opener start c)
      (entries opener start' d) := by
  fun_induction entries opener start c generalizing d with
  | case1 c hend =>
    rw [entries, dif_pos ((hR.nil_iff h.ahead).mp hend)]
    exact .refuseAs hstart _ _
  | case2 c hne f hitem =>
    obtain ⟨a, b, e, f, hc, -⟩ | ⟨failure, other, hc, hd, hfails⟩ :=
      (item_agree hR h.ahead).cases
    · cases hitem.symm.trans hc
    · cases hitem.symm.trans hc
      rw [entries_of_refused (mt (hR.nil_iff h.ahead).mpr hne) hd]
      obtain ⟨hproblem, -, e, f, hplaces, hposition⟩ := hfails
      exact .refused ⟨hproblem, rfl, e, f, h.trans hplaces, hposition⟩
  | case3 c hne marker rest hitem hstyle =>
    obtain ⟨hne', b, f, hd, hsame, hrest⟩ := exists_item hR hitem hne h
    cases hsame with
    | closing =>
      rw [entries_of_item hne' hd]
      simp only [if_pos hstyle]
      exact .read .nil hrest
  | case4 c hne marker rest hitem hstyle =>
    obtain ⟨hne', b, f, hd, hsame, -⟩ := exists_item hR hitem hne h
    cases hsame with
    | closing =>
      rw [entries_of_item hne' hd]
      simp only [if_neg hstyle]
      exact .refuseAs (h.trans (Cursor.abreast_skipBlanks hR h.ahead)) _ _
  | case5 c hne first rest hitem others after hothers ih =>
    obtain ⟨hne', b, f, hd, hsame, hrest⟩ := exists_item hR hitem hne h
    cases hsame with
    | entry hentry =>
      obtain ⟨_, more, _, g, hx, hy, hmore, hafter⟩ | ⟨failure, other, hx, -⟩ := (ih hrest).cases
      · cases hothers.symm.trans hx
        rw [entries_of_item hne' hd]
        simp only [hy]
        exact .read (.cons hentry hmore) hafter
      · cases hothers.symm.trans hx
  | case6 c hne first rest hitem g hothers ih =>
    obtain ⟨hne', b, f, hd, hsame, hrest⟩ := exists_item hR hitem hne h
    cases hsame with
    | entry hentry =>
      obtain ⟨_, more, _, g, hx, -⟩ | ⟨failure, other, hx, hy, hfails⟩ := (ih hrest).cases
      · cases hothers.symm.trans hx
      · cases hothers.symm.trans hx
        rw [entries_of_item hne' hd]
        simp only [hy]
        exact .refused hfails
  | case7 c hne rest hitem ih =>
    obtain ⟨hne', b, f, hd, hsame, hrest⟩ := exists_item hR hitem hne h
    cases hsame with
    | empty =>
      rw [entries_of_item hne' hd]
      exact ih hrest
  | case8 c hne text rest hitem ih =>
    obtain ⟨hne', b, f, hd, hsame, hrest⟩ := exists_item hR hitem hne h
    cases hsame with
    | comment =>
      rw [entries_of_item hne' hd]
      exact ih hrest

theorem block_agree (h : R c.ahead d.ahead) :
    Agree R (Option.Rel (List.Forall₂ (Entry.Same R))) c d (block c) (block d) := by
  have hstart := Cursor.abreast_skipSpace hR h
  unfold block
  obtain ⟨hc, hd⟩ | ⟨opener, e, f, hc, hd, hopened⟩ :=
    markerLine_cases hR unbroken_of_mem_openers hstart.ahead
  · simp only [hc, hd]
    exact .read .none (.refl h)
  · simp only [hc, hd]
    obtain ⟨a, b, e', f', hx, hy, hsame, hrest⟩ | ⟨failure, other, hx, hy, hfails⟩ :=
      (entries_agree hR opener hstart (hstart.trans hopened)).cases
    · simp only [hx, hy]
      exact .read (.some hsame) hrest
    · simp only [hx, hy]
      exact .refused hfails

/-- The entries of a document are read alike, or its block is refused alike. -/
theorem read_cases (h : R c.ahead d.ahead) :
    (∃ a b e f, read c = .ok (a, e) ∧ read d = .ok (b, f) ∧ List.Forall₂ (Entry.Same R) a b ∧
        c.Abreast R d e f) ∨
      ∃ f g, read c = .error (.ofFailure f .malformedMetadataBlock) ∧
        read d = .error (.ofFailure g .malformedMetadataBlock) ∧ Failure.Abreast R c d f g := by
  unfold read
  obtain ⟨a, b, e, f, hc, hd, hsame, hrest⟩ | ⟨failure, other, hc, hd, hfails⟩ :=
    (block_agree hR h).cases
  · refine .inl ⟨a.getD [], b.getD [], e, f, by simp only [hc], by simp only [hd], ?_, hrest⟩
    cases hsame with
    | none => exact .nil
    | some hsame => exact hsame
  · exact .inr ⟨failure, other, by simp only [hc], by simp only [hd], hfails⟩

end Lexical

end Metadata

end StaticPages
