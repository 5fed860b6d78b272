import StaticPages.Proofs.Filter.Extension
import StaticPages.Proofs.Template.Agreement

namespace StaticPages.Placeholder

open Token

/-- Whether a text ends in a brace, or in two braces and white space: what comes next
    may then be taken for a placeholder that begins in the text. -/
def EndsOpen (text : List Char) : Prop :=
  (∃ before, text = before ++ ['\x7b']) ∨
    ∃ before space, text = before ++ '\x7b' :: '\x7b' :: space ∧
      ∀ x ∈ space, Text.isSpace x = true

theorem EndsOpen.prepend {text : List Char} (h : EndsOpen text) (first : List Char) :
    EndsOpen (first ++ text) := by
  obtain ⟨before, rfl⟩ | ⟨before, space, rfl, hspace⟩ := h
  · exact .inl ⟨first ++ before, by simp⟩
  · exact .inr ⟨first ++ before, space, by simp, hspace⟩

theorem not_endsOpen_of_getLast? {text : List Char} {x : Char} (hlast : text.getLast? = some x)
    (hbrace : x ≠ '\x7b') (hspace : Text.isSpace x = false) : ¬ EndsOpen text := by
  rintro (⟨before, rfl⟩ | ⟨before, space, rfl, hall⟩)
  · rw [List.getLast?_concat] at hlast
    exact hbrace (Option.some.inj hlast).symm
  · rw [List.getLast?_append_of_ne_nil before (List.cons_ne_nil _ _)] at hlast
    have hmem := List.mem_of_getLast? hlast
    simp only [List.mem_cons] at hmem
    rcases hmem with rfl | rfl | hmem
    · exact hbrace rfl
    · exact hbrace rfl
    · rw [hall x hmem] at hspace
      cases hspace

theorem not_endsOpen_of_reaches {c d : Cursor} (hreach : c.Reaches d) (h : ¬ EndsOpen c.ahead) :
    ¬ EndsOpen d.ahead := by
  obtain ⟨taken, hahead, -⟩ := hreach
  exact fun hopen => h (hahead ▸ hopen.prepend taken)

variable {c d : Cursor}

/-- A placeholder ends in braces that are not white space, so nothing that is appended
    changes how it is read. -/
theorem parse_append {p : Placeholder} (h : parse c = .ok (p, d)) (more : List Char) :
    parse (c.append more) = .ok (p, d.append more) := by
  unfold parse at h ⊢
  split at h
  · cases h
  · next opened hopened =>
    split at h
    · cases h
    · next name named hnamed =>
      split at h
      · cases h
      · next filters filtered hfiltered =>
        split at h
        · cases h
        · next rest hrest =>
          cases h
          have hclosing : filtered.skipSpace.Continues := by
            refine ⟨'\x7d', ?_, rfl⟩
            rw [Cursor.ahead_of_after? hrest]
            exact List.mem_cons_self
          have hpipes := hclosing.of_reaches (Cursor.reaches_skipSpace filtered)
          have hname := hpipes.of_reaches (Filter.pipeline_reaches hfiltered)
          have hstart := (hname.of_reaches (variableName_reaches hnamed)).of_reaches
            (Cursor.reaches_skipSpace opened)
          simp only [Cursor.after?_append hopened, Cursor.skipSpace_append hstart,
            variableName_settled more hnamed hname, Filter.pipeline_settled more hfiltered hpipes,
            Cursor.skipSpace_append hpipes, Cursor.after?_append hrest]
          rfl

theorem continues_of_not_endsOpen {opened : Cursor} (hopened : c.after? opening = some opened)
    (hend : ¬ EndsOpen c.ahead) : opened.Continues := by
  refine Classical.byContradiction fun hnot => hend (.inr ⟨[], opened.ahead, ?_, ?_⟩)
  · exact Cursor.ahead_of_after? hopened
  · intro x hx
    cases hspace : Text.isSpace x with
    | true => rfl
    | false => exact absurd ⟨x, hx, hspace⟩ hnot

theorem after?_opening_append (hne : c.ahead ≠ []) (hend : ¬ EndsOpen c.ahead)
    (h : c.after? opening = none) (more : List Char) :
    (c.append more).after? opening = none := by
  rw [Cursor.after?_eq_none_iff] at h ⊢
  intro rest hrest
  replace hrest : c.ahead ++ more = '\x7b' :: '\x7b' :: rest := hrest
  obtain ⟨x, xs, hxs⟩ := List.exists_cons_of_ne_nil hne
  rw [hxs, List.cons_append] at hrest
  obtain ⟨rfl, hbehind⟩ := List.cons.inj hrest
  cases xs with
  | nil => exact hend (.inl ⟨[], hxs⟩)
  | cons y ys =>
    obtain ⟨rfl, -⟩ := List.cons.inj hbehind
    exact h ys hxs

/-- Whether a placeholder begins at a cursor is seen in the text ahead, unless this text
    ends too early. -/
theorem opens_append (hne : c.ahead ≠ []) (hend : ¬ EndsOpen c.ahead) (more : List Char) :
    opens (c.append more) = opens c := by
  unfold opens
  cases hopened : c.after? opening with
  | none => rw [after?_opening_append hne hend hopened]
  | some opened =>
    have hcontinues := continues_of_not_endsOpen hopened hend
    obtain ⟨x, xs, hxs⟩ := List.exists_cons_of_ne_nil hcontinues.skipSpace.ne_nil
    have hsigil : sigil.toList = ['£'] := by decide
    simp only [Cursor.after?_append hopened, Cursor.skipSpace_append hcontinues]
    simp only [Cursor.startsWith, Cursor.append, hxs, hsigil, List.cons_append, List.isPrefixOf]

/-- The placeholders of a text stay the first ones when text is appended, and those of the
    appended text come behind them. -/
theorem scan_append {found : List Placeholder} (h : scan c = .ok found)
    (hend : ¬ EndsOpen c.ahead) (more : List Char) :
    scan (c.append more) =
      (scan ⟨more, c.position.after c.ahead⟩).map fun later => found ++ later := by
  fun_induction scan c generalizing found with
  | case1 c hahead =>
    cases h
    have hstart : c.append more = ⟨more, c.position.after c.ahead⟩ := by
      rw [Cursor.append, hahead]
      rfl
    rw [hstart]
    cases scan ⟨more, c.position.after c.ahead⟩ <;> rfl
  | case2 => cases h
  | case3 c hne hopens p rest hparse later hscan ih =>
    cases h
    have hreach := parse_reaches hparse
    have hmore : (c.append more).ahead ≠ [] := List.append_ne_nil_of_left_ne_nil hne more
    rw [scan_eq, if_neg hmore, opens_append hne hend, if_pos hopens, parse_append hparse]
    simp only [ih hscan (not_endsOpen_of_reaches hreach hend), hreach.after_ahead]
    cases scan ⟨more, c.position.after c.ahead⟩ <;> rfl
  | case4 => cases h
  | case5 c hne hopens ih =>
    have hreach := Cursor.reaches_drop 1 c
    have hmore : (c.append more).ahead ≠ [] := List.append_ne_nil_of_left_ne_nil hne more
    have hlength := List.length_pos_iff.mpr hne
    rw [scan_eq, if_neg hmore, opens_append hne hend, if_neg hopens,
      Cursor.drop_append hlength, ih h (not_endsOpen_of_reaches hreach hend), hreach.after_ahead]

end StaticPages.Placeholder
