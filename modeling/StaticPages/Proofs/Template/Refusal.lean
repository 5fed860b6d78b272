import StaticPages.Template.Placeholder

namespace StaticPages

/-- A parser whose refusals leave the kind of error to the caller. -/
def Parser.Unclassified {α : Type} (p : Parser α) : Prop :=
  ∀ {c : Cursor} {f : Failure}, p c = .error f → f.kind = none

theorem Cursor.refuse_kind {α : Type} {c : Cursor} {problem : Problem} {f : Failure}
    (h : c.refuse (α := α) problem = .error f) : f.kind = none := by
  cases h
  rfl

namespace Token

theorem identifier_unclassified : Parser.Unclassified identifier := by
  intro c f h
  unfold identifier at h
  split at h
  · split at h
    · cases h
    · exact Cursor.refuse_kind h
  · exact Cursor.refuse_kind h

theorem variableName_unclassified : Parser.Unclassified variableName := by
  intro c f h
  unfold variableName at h
  split at h
  · exact Cursor.refuse_kind h
  · split at h
    · cases h
    · exact Cursor.refuse_kind h

theorem quotedString_unclassified : Parser.Unclassified quotedString := by
  intro c f h
  unfold quotedString at h
  split at h
  · split at h
    · cases h
    · exact Cursor.refuse_kind h
  · exact Cursor.refuse_kind h

end Token

namespace Filter

open Token

theorem Argument.valueText_unclassified : Parser.Unclassified Argument.valueText := by
  intro c f h
  unfold Argument.valueText at h
  dsimp only at h
  split at h
  · split at h
    · cases h
    · next hquoted =>
      cases h
      exact quotedString_unclassified hquoted
  · split at h
    · exact Cursor.refuse_kind h
    · cases h

theorem Argument.labelled_unclassified : Parser.Unclassified Argument.labelled := by
  intro c f h
  unfold Argument.labelled at h
  split at h
  · next hlabel =>
    cases h
    exact identifier_unclassified hlabel
  · split at h
    · exact Cursor.refuse_kind h
    · split at h
      · cases h
      · next hvalue =>
        cases h
        exact Argument.valueText_unclassified hvalue

theorem Argument.parse_unclassified : Parser.Unclassified Argument.parse := by
  intro c f h
  unfold Argument.parse at h
  split at h
  · exact Argument.labelled_unclassified h
  · split at h
    · cases h
    · next hvalue =>
      cases h
      exact Argument.valueText_unclassified hvalue

theorem Argument.list_unclassified : Parser.Unclassified Argument.list := by
  intro c f h
  fun_induction Argument.list c with
  | case1 c g hfirst =>
    cases h
    exact Argument.parse_unclassified hfirst
  | case2 => cases h
  | case3 => cases h
  | case4 c first rest hfirst next hcomma g hothers ih =>
    cases h
    exact ih hothers

theorem arguments_unclassified : Parser.Unclassified arguments := by
  intro c f h
  unfold arguments at h
  split at h
  · cases h
  · exact Argument.list_unclassified h

theorem parse_unclassified : Parser.Unclassified parse := by
  intro c f h
  unfold parse at h
  dsimp only at h
  split at h
  · exact Cursor.refuse_kind h
  · split at h
    · exact Cursor.refuse_kind h
    · split at h
      · next harguments =>
        cases h
        exact arguments_unclassified harguments
      · split at h
        · cases h
        · exact Cursor.refuse_kind h

theorem pipeline_unclassified : Parser.Unclassified pipeline := by
  intro c f h
  fun_induction pipeline c with
  | case1 => cases h
  | case2 c pipe hpipe g hfilter =>
    cases h
    exact parse_unclassified hfilter
  | case3 => cases h
  | case4 c pipe hpipe filter rest hfilter g hothers ih =>
    cases h
    exact ih hothers

end Filter

theorem Placeholder.parse_unclassified : Parser.Unclassified Placeholder.parse := by
  intro c f h
  unfold Placeholder.parse at h
  split at h
  · exact Cursor.refuse_kind h
  · split at h
    · next hname =>
      cases h
      exact Token.variableName_unclassified hname
    · split at h
      · next hfilters =>
        cases h
        exact Filter.pipeline_unclassified hfilters
      · split at h
        · exact Cursor.refuse_kind h
        · cases h

end StaticPages
