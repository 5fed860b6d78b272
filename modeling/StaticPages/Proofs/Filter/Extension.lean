import StaticPages.Proofs.Filter.Agreement
import StaticPages.Proofs.Filter.Parser
import StaticPages.Proofs.Source.Extension

namespace StaticPages.Filter

open Token

namespace Argument

/-- A bare value that ends before the text does is not prolonged: whether a brace ends
    it depends on the next character only. -/
theorem bare_append_of_ne_nil {xs : List Char} (h : xs.drop (bare xs).length ≠ [])
    (more : List Char) : bare (xs ++ more) = bare xs := by
  induction xs with
  | nil => exact absurd rfl h
  | cons x xs ih =>
    by_cases hxs : xs = []
    · subst hxs
      cases hends : (x == ',' || x == '|' || x == '\n') with
      | true => simp [bare, hends]
      | false => simp [bare, hends] at h
    · have hhead : (xs ++ more).head? = xs.head? := by
        obtain ⟨y, ys, rfl⟩ := List.exists_cons_of_ne_nil hxs
        rfl
      rw [List.cons_append]
      simp only [bare, hhead] at h ⊢
      split
      · rfl
      · next hends =>
        rw [if_neg hends] at h
        rw [ih h]

theorem inside_of_isNameChar {c : Char} (h : isNameChar c = true) : Inside c := by
  refine ⟨?_, ?_, ?_, ?_⟩ <;> (rintro rfl; cases h)

theorem valueText_settled : Parser.Settled valueText := by
  intro c d text more h hd
  have hc := hd.of_reaches (valueText_reaches h)
  unfold valueText at h ⊢
  simp only [Cursor.skipBlanks_append hc, Cursor.head?_append hc.skipBlanks.ne_nil] at h ⊢
  split
  · next hquote =>
    rw [if_pos hquote] at h
    split at h
    · next found after hfound =>
      simp only [Except.ok.injEq, Prod.mk.injEq] at h
      obtain ⟨rfl, rfl⟩ := h
      have hafter := hd.of_reaches (Cursor.reaches_skipBlanks after)
      simp only [quotedString_settled more hfound hafter, Cursor.skipBlanks_append hafter]
    · cases h
  · next hquote =>
    rw [if_neg hquote] at h
    split at h
    · cases h
    · next hempty =>
      simp only [Except.ok.injEq, Prod.mk.injEq] at h
      obtain ⟨rfl, rfl⟩ := h
      have hlength : (bare c.skipBlanks.ahead).length ≤ c.skipBlanks.ahead.length :=
        Nat.le_of_not_le (mt List.drop_eq_nil_of_le hd.ne_nil)
      have hbare : bare (c.skipBlanks.append more).ahead = bare c.skipBlanks.ahead :=
        bare_append_of_ne_nil hd.ne_nil more
      rw [hbare, if_neg hempty, Cursor.drop_append hlength]

/-- Whether a colon follows a name is seen before the value that begins with the name
    ends. -/
theorem skipBlanks_ne_nil_of_valueText {c d named : Cursor} {label text : String}
    (hnamed : identifier c.skipBlanks = .ok (label, named))
    (hvalue : valueText c = .ok (text, d)) (hd : d.ahead ≠ []) :
    named.skipBlanks.ahead ≠ [] := by
  intro hend
  obtain ⟨hname, hahead, -⟩ := exists_name_of_identifier hnamed
  obtain ⟨blanks, hblanks, hall⟩ := Cursor.exists_skipWhile Text.isBlank named
  have hrest : named.ahead = blanks := by
    rw [hblanks]
    exact (congrArg (blanks ++ ·) hend).trans (List.append_nil blanks)
  have hinside : ∀ x ∈ c.skipBlanks.ahead, Inside x := by
    intro x hx
    rw [hahead, hrest] at hx
    rcases List.mem_append.mp hx with hx | hx
    · exact inside_of_isNameChar (hname.all x hx)
    · exact inside_of_isBlank (hall x hx)
  have hbare : bare c.skipBlanks.ahead = c.skipBlanks.ahead := bare_eq_self_of_inside hinside
  have hhead : c.skipBlanks.head? ≠ some '"' := by
    obtain ⟨first, others, hlabel, hfirst, -⟩ := hname
    intro hquote
    simp only [Cursor.head?, hahead, hlabel, List.cons_append, List.head?_cons,
      Option.some.injEq] at hquote
    subst hquote
    cases hfirst
  unfold valueText at hvalue
  simp only [if_neg hhead, hbare] at hvalue
  split at hvalue
  · cases hvalue
  · simp only [Except.ok.injEq, Prod.mk.injEq] at hvalue
    obtain ⟨-, rfl⟩ := hvalue
    exact hd (List.drop_length ..)

theorem head?_ne_of_hasLabel {c named : Cursor} {label : String} (h : hasLabel c = false)
    (hnamed : identifier c.skipBlanks = .ok (label, named)) :
    named.skipBlanks.head? ≠ some ':' := by
  simpa only [hasLabel, hnamed, beq_eq_false_iff_ne] using h

/-- With text appended there is no label where no colon follows the name then. -/
theorem hasLabel_append_of_forall {c : Cursor} {more : List Char}
    (hstart : c.skipBlanks.ahead ≠ [])
    (h : ∀ label named, identifier c.skipBlanks = .ok (label, named) →
      identifier (c.skipBlanks.append more) = .ok (label, named.append more) ∧
        (named.append more).skipBlanks.head? ≠ some ':') :
    hasLabel (c.append more) = false := by
  unfold hasLabel
  rw [Cursor.skipBlanks_append_of_ne_nil hstart]
  cases hnamed : identifier c.skipBlanks with
  | error f =>
    obtain ⟨g, hg⟩ := identifier_append_eq_error hstart hnamed more
    rw [hg]
  | ok found =>
    obtain ⟨label, named⟩ := found
    obtain ⟨hagain, hcolon⟩ := h label named hnamed
    simpa only [hagain, beq_eq_false_iff_ne] using hcolon

/-- No label comes about where what is appended neither prolongs a name nor begins with a
    colon behind blanks. -/
theorem hasLabel_append_of_stops {c : Cursor} {more : List Char} (hstart : c.skipBlanks.ahead ≠ [])
    (h : hasLabel c = false) (hname : Text.Stops isNameChar more)
    (hcolon : (more.dropWhile Text.isBlank).head? ≠ some ':') :
    hasLabel (c.append more) = false := by
  refine hasLabel_append_of_forall hstart fun label named hnamed => ?_
  obtain ⟨-, -, hstops⟩ := exists_name_of_identifier hnamed
  refine ⟨identifier_append_of_stops hnamed (hstops.append hname), ?_⟩
  by_cases hend : named.skipBlanks.ahead = []
  · rwa [Cursor.head?, Cursor.ahead_skipBlanks_append hend]
  · rw [Cursor.skipBlanks_append_of_ne_nil hend, Cursor.head?_append hend]
    exact head?_ne_of_hasLabel h hnamed

theorem hasLabel_append {c d : Cursor} {text : String} (hvalue : valueText c = .ok (text, d))
    (hd : d.Continues) (h : hasLabel c = false) (more : List Char) :
    hasLabel (c.append more) = false := by
  have hc := hd.of_reaches (valueText_reaches hvalue)
  refine hasLabel_append_of_forall hc.skipBlanks.ne_nil fun label named hnamed => ?_
  have hskip := skipBlanks_ne_nil_of_valueText hnamed hvalue hd.ne_nil
  have hne := mt (Cursor.reaches_skipBlanks named).ahead_eq_nil hskip
  refine ⟨identifier_append hnamed hne more, ?_⟩
  rw [Cursor.skipBlanks_append_of_ne_nil hskip, Cursor.head?_append hskip]
  exact head?_ne_of_hasLabel h hnamed

theorem hasLabel_of_labelled {c d : Cursor} {a : Argument} (h : labelled c = .ok (a, d)) :
    hasLabel c = true := by
  unfold labelled at h
  unfold hasLabel
  split at h
  · cases h
  · next label named hnamed =>
    split at h
    · cases h
    · next colon hcolon =>
      have hahead : named.skipBlanks.ahead = ':' :: colon.ahead := Cursor.ahead_of_after? hcolon
      simp only [hnamed, Cursor.head?, hahead, List.head?_cons, beq_self_eq_true]

/-- What stands before the value of a labelled argument is read again whatever follows. -/
theorem exists_valueText_of_labelled {c d : Cursor} {a : Argument} (h : labelled c = .ok (a, d)) :
    ∃ colon, valueText colon = .ok (a.value, d) ∧ ∀ {more e},
      valueText (colon.append more) = .ok (a.value, e) → labelled (c.append more) = .ok (a, e) := by
  unfold labelled at h ⊢
  split at h
  · cases h
  · next label named hnamed =>
    split at h
    · cases h
    · next colon hcolon =>
      split at h
      · next text rest hvalue =>
        cases h
        have hnext := Cursor.ne_nil_of_after? (by decide) hcolon
        have hne := mt (Cursor.reaches_skipBlanks named).ahead_eq_nil hnext
        refine ⟨colon, hvalue, fun {more e} hagain => ?_⟩
        simp only [Cursor.skipBlanks_append_of_ne_nil (ne_nil_of_identifier hnamed),
          identifier_append hnamed hne more, Cursor.skipBlanks_append_of_ne_nil hnext,
          Cursor.after?_append hcolon, hagain]
      · cases h

theorem labelled_settled : Parser.Settled labelled := by
  intro c d a more h hd
  obtain ⟨colon, hvalue, hagain⟩ := exists_valueText_of_labelled h
  exact hagain (valueText_settled more hvalue hd)

theorem parse_settled : Parser.Settled parse := by
  intro c d a more h hd
  unfold parse at h ⊢
  split at h
  · next hlabel =>
    have hlabelled := labelled_settled more h hd
    simp only [hasLabel_of_labelled hlabelled, if_true, hlabelled]
  · next hlabel =>
    split at h
    · next text rest hvalue =>
      simp only [Except.ok.injEq, Prod.mk.injEq] at h
      obtain ⟨rfl, rfl⟩ := h
      have hnone := hasLabel_append hvalue hd (Bool.eq_false_iff.mpr hlabel) more
      simp only [hnone, Bool.false_eq_true, if_false, valueText_settled more hvalue hd]
    · cases h

theorem list_settled : Parser.Settled list := by
  intro c d found more h hd
  fun_induction list c generalizing found with
  | case1 c f hfirst => cases h
  | case2 c first rest hfirst hcomma =>
    cases h
    have hnone : (d.append more).after? "," = none :=
      Cursor.after?_append_eq_none (List.length_pos_iff.mpr hd.ne_nil) hcomma
    rw [list_eq]
    simp only [parse_settled more hfirst hd, hnone]
  | case3 c first rest hfirst next hcomma others after hothers ih =>
    cases h
    have hrest := (hd.of_reaches (list_reaches hothers)).of_reaches (Cursor.reaches_after? hcomma)
    rw [list_eq]
    simp only [parse_settled more hfirst hrest, Cursor.after?_append hcomma, ih hothers]
  | case4 => cases h

end Argument

theorem arguments_settled : Parser.Settled arguments := by
  intro c d given more h hd
  have hc := hd.of_reaches (arguments_reaches h)
  unfold arguments at h ⊢
  rw [Cursor.skipBlanks_append hc]
  split at h
  · next hequals =>
    cases h
    have hnone : (c.skipBlanks.append more).after? "=" = none :=
      Cursor.after?_append_eq_none (List.length_pos_iff.mpr hc.skipBlanks.ne_nil) hequals
    rw [hnone]
  · next equals hequals =>
    simp only [Cursor.after?_append hequals, Argument.list_settled more h hd]

theorem IsWritten.append {c d : Cursor} {written : String} {given : List Argument}
    (h : IsWritten c written given d) (hd : d.Continues) (more : List Char) :
    IsWritten (c.append more) written given (d.append more) := by
  obtain ⟨named, hnamed, hgiven⟩ := h
  have hnext := hd.of_reaches (arguments_reaches hgiven)
  refine ⟨named.append more, ?_, arguments_settled more hgiven hd⟩
  rw [Cursor.skipBlanks_append_of_ne_nil (ne_nil_of_identifier hnamed)]
  exact identifier_append hnamed hnext.ne_nil more

theorem parse_settled : Parser.Settled parse := by
  intro c d filter more h hd
  obtain ⟨written, given, hwritten⟩ := exists_isWritten_of_parse h
  rw [parse_eq_ok_iff (hwritten.append hd more)]
  exact ⟨rfl, ((parse_eq_ok_iff hwritten).mp h).2⟩

/-- A pipeline ends before white space that no pipe follows, so something else has to
    follow it. -/
theorem pipeline_settled : Parser.Settled pipeline := by
  intro c d found more h hd
  fun_induction pipeline c generalizing found with
  | case1 c hpipe =>
    cases h
    have hnone : (d.skipSpace.append more).after? "|" = none :=
      Cursor.after?_append_eq_none (List.length_pos_iff.mpr hd.skipSpace.ne_nil) hpipe
    rw [pipeline_eq, Cursor.skipSpace_append hd]
    simp only [hnone]
  | case2 => cases h
  | case3 c pipe hpipe filter rest hfilter others after hothers ih =>
    cases h
    have hrest := hd.of_reaches (pipeline_reaches hothers)
    have hspace := (hrest.of_reaches (parse_reaches hfilter)).of_reaches
      (Cursor.reaches_after? hpipe)
    have hc := hspace.of_reaches (Cursor.reaches_skipSpace c)
    rw [pipeline_eq, Cursor.skipSpace_append hc]
    simp only [Cursor.after?_append hpipe, parse_settled more hfilter hrest, ih hothers]
  | case4 => cases h

end StaticPages.Filter
