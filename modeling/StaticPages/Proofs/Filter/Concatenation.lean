import StaticPages.Proofs.Filter.Apply
import StaticPages.Proofs.Filter.Extension
import StaticPages.Proofs.Shift

namespace StaticPages.Filter

open Token

/-- Whether a pipe begins a text, or follows the white space that does. -/
def Piped (text : List Char) : Prop :=
  (text.dropWhile Text.isSpace).head? = some '|'

instance (text : List Char) : Decidable (Piped text) :=
  inferInstanceAs (Decidable (_ = _))

namespace Piped

variable {text : List Char}

/-- White space or the pipe stands at the front, so a class without them stops there. -/
theorem stops (h : Piped text) {f : Char → Bool}
    (hspace : ∀ x, Text.isSpace x = true → f x = false) (hpipe : f '|' = false) :
    Text.Stops f text := by
  cases text with
  | nil => exact Text.stops_nil f
  | cons x rest =>
    rw [Text.stops_cons]
    cases hx : Text.isSpace x with
    | true => exact hspace x hx
    | false =>
      obtain rfl : x = '|' := by simpa [Piped, hx] using h
      exact hpipe

theorem head?_ne (h : Piped text) {x : Char} (hspace : Text.isSpace x = false) (hpipe : x ≠ '|') :
    text.head? ≠ some x := by
  have hstops : Text.Stops (· == x) text := by
    refine h.stops (fun y hy => ?_) (by simpa using hpipe.symm)
    rw [beq_eq_false_iff_ne]
    rintro rfl
    cases hspace.symm.trans hy
  intro hhead
  simpa using hstops x hhead

theorem stops_isNameChar (h : Piped text) : Text.Stops isNameChar text :=
  h.stops (fun _ => isNameChar_of_isSpace) rfl

theorem after?_eq_none {c : Cursor} (h : Piped c.ahead) {token : String} {x : Char}
    (htoken : token.toList = [x]) (hspace : Text.isSpace x = false) (hpipe : x ≠ '|') :
    c.after? token = none := by
  rw [Cursor.after?_eq_none_iff, htoken]
  intro rest hrest
  exact h.head?_ne hspace hpipe (by rw [hrest]; rfl)

/-- A bare value takes no more than white space before the pipe. -/
theorem isSpace_of_mem_bare (h : Piped text) :
    ∀ x ∈ Argument.bare text, Text.isSpace x = true := by
  induction text with
  | nil => nofun
  | cons x rest ih =>
    cases hx : Text.isSpace x with
    | false =>
      obtain rfl : x = '|' := by simpa [Piped, hx] using h
      nofun
    | true =>
      have hrest : Piped rest := by simpa [Piped, hx] using h
      intro y hy
      rw [Argument.bare] at hy
      split at hy
      · cases hy
      · rcases List.mem_cons.mp hy with rfl | hy
        · exact hx
        · exact ih hrest y hy

end Piped

/-- Whether what a parser has read up to the end of a text stays as it is with white space
    and a pipe behind the text. The parser may pass over some of that white space. -/
def SettledBeforePipe {α : Type} (p : Parser α) : Prop :=
  ∀ {c d : Cursor} {value : α} {more : List Char}, p c = .ok (value, d) → d.ahead = [] →
    Piped more → ∃ e, p (c.append more) = .ok (value, e) ∧
      e.ahead.dropWhile Text.isSpace = more.dropWhile Text.isSpace

theorem piped_skipBlanks_append {c : Cursor} (h : c.skipBlanks.ahead = []) {more : List Char}
    (hmore : Piped more) : Piped (c.append more).skipBlanks.ahead := by
  rwa [Cursor.ahead_skipBlanks_append h, Piped, Text.dropWhile_isSpace_dropWhile_isBlank]

/-- A name ends where the text does, or before white space or the pipe. -/
theorem identifier_append_of_piped {c d : Cursor} {name : String} {more : List Char}
    (h : identifier c = .ok (name, d)) (hmore : Piped more) :
    identifier (c.append more) = .ok (name, d.append more) := by
  obtain ⟨-, -, hstops⟩ := exists_name_of_identifier h
  exact identifier_append_of_stops h (hstops.append hmore.stops_isNameChar)

namespace Argument

theorem bare_append_drop (text : List Char) : bare text ++ text.drop (bare text).length = text := by
  induction text with
  | nil => rfl
  | cons x rest ih =>
    rw [bare]
    split
    · rfl
    · simp [ih]

/-- Before the pipe a bare value leaves the text as it is but for white space. -/
theorem dropWhile_drop_bare {text : List Char} (h : Piped text) :
    (text.drop (bare text).length).dropWhile Text.isSpace = text.dropWhile Text.isSpace := by
  conv => rhs; rw [← bare_append_drop text]
  rw [List.dropWhile_append_of_pos h.isSpace_of_mem_bare]

theorem bare_eq_self_of_drop {text : List Char} (h : text.drop (bare text).length = []) :
    bare text = text := by
  have hparts := bare_append_drop text
  rwa [h, List.append_nil] at hparts

theorem skipBlanks_ne_nil {c d : Cursor} {text : String} (h : valueText c = .ok (text, d)) :
    c.skipBlanks.ahead ≠ [] := by
  intro hend
  unfold valueText at h
  simp only [Cursor.head?, hend] at h
  cases h

theorem valueText_settledBeforePipe : SettledBeforePipe valueText := by
  intro c d text more h hend hmore
  have hstart := skipBlanks_ne_nil h
  unfold valueText at h ⊢
  simp only [Cursor.skipBlanks_append_of_ne_nil hstart, Cursor.head?_append hstart] at h ⊢
  split
  · next hquote =>
    rw [if_pos hquote] at h
    split at h
    · next found after hfound =>
      simp only [Except.ok.injEq, Prod.mk.injEq] at h
      obtain ⟨rfl, rfl⟩ := h
      refine ⟨(after.append more).skipBlanks, by simp only [quotedString_append hfound], ?_⟩
      rw [Cursor.ahead_skipBlanks_append hend, Text.dropWhile_isSpace_dropWhile_isBlank]
    · cases h
  · next hquote =>
    rw [if_neg hquote] at h
    split at h
    · cases h
    · next hempty =>
      simp only [Except.ok.injEq, Prod.mk.injEq] at h
      obtain ⟨rfl, rfl⟩ := h
      have hall : bare c.skipBlanks.ahead = c.skipBlanks.ahead := bare_eq_self_of_drop hend
      have hbare : bare (c.skipBlanks.append more).ahead = c.skipBlanks.ahead ++ bare more :=
        bare_append_of_eq hall fun _ => hmore.head?_ne rfl (by decide)
      rw [hall] at hempty ⊢
      rw [hbare, Text.trimChars_append hmore.isSpace_of_mem_bare, if_neg hempty]
      refine ⟨_, rfl, ?_⟩
      have hrest : ((c.skipBlanks.append more).drop
          (c.skipBlanks.ahead ++ bare more).length).ahead = more.drop (bare more).length := by
        simp only [Cursor.drop, Cursor.append, List.length_append, List.drop_append,
          Nat.add_sub_cancel_left, List.drop_eq_nil_of_le (Nat.le_add_right ..), List.nil_append]
      rw [hrest, dropWhile_drop_bare hmore]

/-- No colon follows a name with which the text ends. -/
theorem hasLabel_append_of_piped {c : Cursor} {more : List Char} (hstart : c.skipBlanks.ahead ≠ [])
    (h : hasLabel c = false) (hmore : Piped more) : hasLabel (c.append more) = false := by
  refine hasLabel_append_of_stops hstart h hmore.stops_isNameChar fun hcolon => ?_
  have hpiped : Piped (more.dropWhile Text.isBlank) := by
    rwa [Piped, Text.dropWhile_isSpace_dropWhile_isBlank]
  exact hpiped.head?_ne rfl (by decide) hcolon

theorem labelled_settledBeforePipe : SettledBeforePipe labelled := by
  intro c d a more h hend hmore
  obtain ⟨colon, hvalue, hagain⟩ := exists_valueText_of_labelled h
  obtain ⟨e, he, hrest⟩ := valueText_settledBeforePipe hvalue hend hmore
  exact ⟨e, hagain he, hrest⟩

theorem parse_settledBeforePipe : SettledBeforePipe parse := by
  intro c d a more h hend hmore
  unfold parse at h ⊢
  split at h
  · next hlabel =>
    obtain ⟨e, he, hrest⟩ := labelled_settledBeforePipe h hend hmore
    exact ⟨e, by rw [if_pos (hasLabel_of_labelled he), he], hrest⟩
  · next hlabel =>
    split at h
    · next text rest hvalue =>
      simp only [Except.ok.injEq, Prod.mk.injEq] at h
      obtain ⟨rfl, rfl⟩ := h
      obtain ⟨e, he, hrest⟩ := valueText_settledBeforePipe hvalue hend hmore
      have hnone := hasLabel_append_of_piped (skipBlanks_ne_nil hvalue)
        (Bool.eq_false_iff.mpr hlabel) hmore
      refine ⟨e, ?_, hrest⟩
      simp only [hnone, Bool.false_eq_true, if_false, he]
    · cases h

/-- All arguments but the last end at a comma. -/
theorem list_settledBeforePipe : SettledBeforePipe list := by
  intro c d found more h hend hmore
  fun_induction list c generalizing found with
  | case1 c f hfirst => cases h
  | case2 c first rest hfirst hcomma =>
    cases h
    obtain ⟨e, he, hrest⟩ := parse_settledBeforePipe hfirst hend hmore
    have hpiped : Piped e.ahead := by rwa [Piped, hrest]
    exact ⟨e, list_of_last he (hpiped.after?_eq_none rfl rfl (by decide)), hrest⟩
  | case3 c first rest hfirst next hcomma others after hothers ih =>
    cases h
    obtain ⟨e, he, hrest⟩ := ih hothers
    have hcontinues : rest.Continues := Cursor.continues_of_after? hcomma rfl rfl
    exact ⟨e, list_of_comma (parse_settled more hfirst hcontinues)
      (Cursor.after?_append hcomma) he, hrest⟩
  | case4 => cases h

end Argument

theorem arguments_settledBeforePipe : SettledBeforePipe arguments := by
  intro c d given more h hend hmore
  unfold arguments at h ⊢
  split at h
  · cases h
    have hblanks := (Cursor.reaches_skipBlanks c).ahead_eq_nil hend
    have hequals : (c.append more).skipBlanks.after? "=" = none :=
      (piped_skipBlanks_append hblanks hmore).after?_eq_none rfl rfl (by decide)
    exact ⟨c.append more, by rw [hequals], by rw [Cursor.append, hend, List.nil_append]⟩
  · next equals hequals =>
    obtain ⟨e, he, hrest⟩ := Argument.list_settledBeforePipe h hend hmore
    refine ⟨e, ?_, hrest⟩
    simp only [Cursor.skipBlanks_append_of_ne_nil (Cursor.ne_nil_of_after? (by decide) hequals),
      Cursor.after?_append hequals, he]

theorem parse_settledBeforePipe : SettledBeforePipe parse := by
  intro c d filter more h hend hmore
  obtain ⟨written, given, hwritten⟩ := exists_isWritten_of_parse h
  have ⟨named, hnamed, hgiven⟩ := hwritten
  obtain ⟨e, he, hrest⟩ := arguments_settledBeforePipe hgiven hend hmore
  have hagain : IsWritten (c.append more) written given e := by
    refine ⟨named.append more, ?_, he⟩
    rw [Cursor.skipBlanks_append_of_ne_nil (ne_nil_of_identifier hnamed)]
    exact identifier_append_of_piped hnamed hmore
  refine ⟨e, ?_, hrest⟩
  rw [parse_eq_ok_iff hagain]
  exact ⟨rfl, ((parse_eq_ok_iff hwritten).mp h).2⟩

/-- Only what stands behind the white space decides how a pipeline goes on with a pipe. -/
theorem pipeline_eq_of_skipSpace {c d : Cursor} (h : c.skipSpace = d.skipSpace)
    (hpiped : Piped d.ahead) : pipeline c = pipeline d := by
  obtain ⟨rest, hrest⟩ := List.head?_eq_some_iff.mp hpiped
  obtain ⟨pipe, hpipe, -⟩ : ∃ pipe, d.skipSpace.after? "|" = some pipe ∧ pipe.ahead = rest :=
    Cursor.exists_after? hrest
  rw [pipeline_eq c, pipeline_eq d, h]
  simp only [hpipe]

/-- A filter with which a pipeline ends leaves the pipeline behind it as it is. -/
theorem exists_parse_append {c d rest : Cursor} {filter : Filter} {others : List Filter}
    {more : List Char} (h : parse c = .ok (filter, rest))
    (hothers : pipeline rest = .ok (others, d)) (hend : d.ahead = []) (hmore : Piped more) :
    ∃ e, parse (c.append more) = .ok (filter, e) ∧ pipeline e = pipeline (rest.append more) := by
  by_cases hrest : rest.ahead = []
  · obtain ⟨e, he, hspace⟩ := parse_settledBeforePipe h hrest hmore
    have hpiped : Piped (rest.append more).ahead := by
      rwa [Cursor.append, hrest, List.nil_append]
    refine ⟨e, he, pipeline_eq_of_skipSpace ?_ hpiped⟩
    refine ((parse_reaches he).trans (Cursor.reaches_skipSpace e)).eq_of_ahead
      (((parse_reaches h).append more).trans (Cursor.reaches_skipSpace _)) ?_
    simpa [Cursor.skipSpace, Cursor.skipWhile, Cursor.append, hrest] using hspace
  · have hcontinues : rest.Continues := by
      rw [pipeline_eq] at hothers
      split at hothers
      · cases hothers
        exact absurd hend hrest
      · next pipe hpipe =>
        exact (Cursor.continues_of_after? hpipe rfl rfl).of_reaches (Cursor.reaches_skipSpace rest)
    exact ⟨rest.append more, parse_settled more h hcontinues, rfl⟩

theorem pipeline_append_of_piped {c d : Cursor} {found : List Filter} {more : List Char}
    (h : pipeline c = .ok (found, d)) (hend : d.ahead = []) (hmore : Piped more) :
    pipeline (c.append more) =
      match pipeline (d.append more) with
      | .ok (later, rest) => .ok (found ++ later, rest)
      | .error f => .error f := by
  fun_induction pipeline c generalizing found with
  | case1 c hpipe =>
    cases h
    cases pipeline (d.append more) <;> rfl
  | case2 => cases h
  | case3 c pipe hpipe filter rest hfilter others last hothers ih =>
    cases h
    obtain ⟨e, he, hnext⟩ := exists_parse_append hfilter hothers hend hmore
    have hspace : (c.append more).skipSpace = c.skipSpace.append more :=
      Cursor.skipWhile_append (Cursor.ne_nil_of_after? (by decide) hpipe)
    rw [pipeline_eq, hspace]
    simp only [Cursor.after?_append hpipe, he, hnext, ih hothers]
    cases pipeline (d.append more) <;> rfl
  | case4 => cases h

theorem applyAll_append (render : Renderer) (first second : List Filter) (value : String) :
    applyAll render (first ++ second) value =
      match applyAll render first value with
      | .ok next => applyAll render second next
      | .error fault => .error fault := by
  induction first generalizing value with
  | nil => rfl
  | cons filter rest ih =>
    simp only [List.cons_append, applyAll]
    cases filter.apply render value with
    | ok next => exact ih next
    | error fault => rfl

/-- A pipeline that ends with its text goes on in a text that begins with a pipe: the text
    of both has the filters of both, or the second one's error at its place, and works as
    the one pipeline after the other. -/
theorem pipeline_concat_spec {first second : String} {found : List Filter} {d : Cursor}
    (hfirst : pipeline (Cursor.ofString first) = .ok (found, d)) (hend : d.ahead = [])
    (hsecond : Piped second.toList) :
    pipeline (Cursor.ofString (first ++ second)) =
        shiftRead first.toList (found ++ ·) (pipeline (Cursor.ofString second)) ∧
      ∀ (render : Renderer) (later : List Filter) (value : String),
        applyAll render (found ++ later) value =
          match applyAll render found value with
          | .ok next => applyAll render later next
          | .error fault => .error fault := by
  refine ⟨?_, fun render later value => applyAll_append render found later value⟩
  have htext : Cursor.ofString (first ++ second) =
      (Cursor.ofString first).append second.toList := by
    simp only [Cursor.ofString, Cursor.append, String.toList_append]
  have hplace : d.append second.toList = (Cursor.ofString second).shift first.toList := by
    have hposition := (pipeline_reaches hfirst).after_ahead
    rw [hend] at hposition
    rw [Cursor.append, hend, List.nil_append, Cursor.shift, Cursor.ofString,
      ← Position.after_start first.toList]
    exact congrArg (Cursor.mk second.toList) hposition
  rw [htext, pipeline_append_of_piped hfirst hend hsecond, hplace,
    (readsAlike_shift first.toList (Cursor.ofString second)).pipeline]
  cases pipeline (Cursor.ofString second) <;> rfl

/-- The value of the last argument takes in the blank before the line feed, and the pipe
    on the next line is still found. -/
theorem pipeline_concat_spec_two_lines :
    pipeline (Cursor.ofString "| truncate = 5, trail: !") =
        .ok ([.truncate 5 "!"], ⟨[], ⟨1, 24⟩⟩) ∧
      Piped " \n| uppercase".toList ∧
      pipeline (Cursor.ofString ("| truncate = 5, trail: !" ++ " \n| uppercase")) =
        .ok ([.truncate 5 "!", .text .upper], ⟨[], ⟨2, 37⟩⟩) ∧
      applyAll .ok ([.truncate 5 "!"] ++ [.text .upper]) "Hello World" = .ok "HELLO!" := by
  have hfirst : pipeline (Cursor.ofString "| truncate = 5, trail: !") =
      .ok ([.truncate 5 "!"], ⟨[], ⟨1, 24⟩⟩) := by decide +kernel
  have hsecond : Piped " \n| uppercase".toList := by decide +kernel
  have hlater : pipeline (Cursor.ofString " \n| uppercase") =
      .ok ([.text .upper], ⟨[], ⟨2, 13⟩⟩) := by decide +kernel
  obtain ⟨hboth, happly⟩ := pipeline_concat_spec hfirst rfl hsecond
  refine ⟨hfirst, hsecond, ?_, (happly ..).trans (by decide +kernel)⟩
  rw [hboth, hlater]
  decide +kernel

end StaticPages.Filter
