import StaticPages.Proofs.Template.Substitution

namespace StaticPages.Template

/-- How a placeholder fails: its variable is not defined, or one of its filters fails. An
    error without a position is told to be that of the placeholder; any other error is
    passed on as it is. -/
inductive Fails (renderer : Renderer) (table : Variables) (p : Placeholder) : Fault → Prop
  | undefined (hname : table.get? p.name = none) :
      Fails renderer table p
        (.render ⟨.undefinedVariable, .undefinedVariable p.name, some p.selection.start⟩)
  | unplaced {raw : String} {kind : ErrorKind} {cause : Cause}
      (hname : table.get? p.name = some raw)
      (hfilters : Filter.applyAll renderer p.filters raw = .error (.render ⟨kind, cause, none⟩)) :
      Fails renderer table p
        (.render ⟨kind, .inPlaceholder cause p.name, some p.selection.start⟩)
  | placed {raw : String} {kind : ErrorKind} {cause : Cause} {position : Position}
      (hname : table.get? p.name = some raw)
      (hfilters : Filter.applyAll renderer p.filters raw =
        .error (.render ⟨kind, cause, some position⟩)) :
      Fails renderer table p (.render ⟨kind, cause, some position⟩)
  | foreign {raw message : String} (hname : table.get? p.name = some raw)
      (hfilters : Filter.applyAll renderer p.filters raw = .error (.foreign message)) :
      Fails renderer table p (.foreign message)

variable {renderer : Renderer} {table : Variables}

theorem resolve_eq_error_iff {p : Placeholder} {fault : Fault} :
    resolve renderer table p = .error fault ↔ Fails renderer table p fault := by
  constructor
  · intro h
    unfold resolve at h
    split at h
    · next hname =>
      cases h
      exact .undefined hname
    · next raw hname =>
      cases hfilters : Filter.applyAll renderer p.filters raw with
      | ok value =>
        rw [hfilters] at h
        cases h
      | error failed =>
        rw [hfilters] at h
        cases h
        cases failed with
        | foreign message => exact .foreign hname hfilters
        | render e =>
          obtain ⟨kind, cause, position⟩ := e
          cases position with
          | none => exact .unplaced hname hfilters
          | some position => exact .placed hname hfilters
  · intro h
    unfold resolve
    cases h with
    | undefined hname => rw [hname]
    | unplaced hname hfilters | placed hname hfilters | foreign hname hfilters =>
      rw [hname]
      simp only [hfilters]
      rfl

/-- A placeholder has a value or fails, and not both. -/
theorem resolve_cases (renderer : Renderer) (table : Variables) (p : Placeholder) :
    (∃ value, resolve renderer table p = .ok value ∧ HasValue renderer table p value) ∨
      ∃ fault, resolve renderer table p = .error fault := by
  cases h : resolve renderer table p with
  | ok value => exact .inl ⟨value, rfl, resolve_eq_ok_iff.mp h⟩
  | error fault => exact .inr ⟨fault, rfl⟩

theorem exists_substitute_iff (placeholders : List Placeholder) (text : String) :
    (∃ html, substitute renderer table placeholders text = .ok html) ↔
      ∀ p ∈ placeholders, ∃ value, HasValue renderer table p value := by
  induction placeholders generalizing text with
  | nil => simp [substitute]
  | cons p rest ih =>
    rw [List.forall_mem_cons, substitute]
    obtain ⟨value, hvalue, hhas⟩ | ⟨fault, hfault⟩ := resolve_cases renderer table p
    · rw [hvalue]
      simp only [ih]
      exact ⟨fun h => ⟨⟨value, hhas⟩, h⟩, And.right⟩
    · rw [hfault]
      constructor
      · rintro ⟨html, hhtml⟩
        cases hhtml
      · rintro ⟨⟨value, hhas⟩, -⟩
        cases hfault.symm.trans (resolve_eq_ok_iff.mpr hhas)

/-- The failure of a substitution is that of the first placeholder in the list to fail. -/
theorem substitute_eq_error_iff {placeholders : List Placeholder} {text : String}
    {fault : Fault} :
    substitute renderer table placeholders text = .error fault ↔
      ∃ done p rest, placeholders = done ++ p :: rest ∧
        (∀ q ∈ done, ∃ value, HasValue renderer table q value) ∧ Fails renderer table p fault := by
  induction placeholders generalizing text with
  | nil => simp [substitute]
  | cons first others ih =>
    rw [substitute]
    obtain ⟨value, hvalue, hhas⟩ | ⟨failed, hfailed⟩ := resolve_cases renderer table first
    · rw [hvalue]
      simp only [ih]
      constructor
      · rintro ⟨done, p, rest, rfl, hdone, hfails⟩
        exact ⟨first :: done, p, rest, rfl, List.forall_mem_cons.mpr ⟨⟨value, hhas⟩, hdone⟩, hfails⟩
      · rintro ⟨done, p, rest, hsplit, hdone, hfails⟩
        cases done with
        | nil =>
          obtain ⟨rfl, rfl⟩ := List.cons.inj hsplit
          cases hvalue.symm.trans (resolve_eq_error_iff.mpr hfails)
        | cons q done =>
          obtain ⟨rfl, rfl⟩ := List.cons.inj hsplit
          exact ⟨done, p, rest, rfl, (List.forall_mem_cons.mp hdone).2, hfails⟩
    · rw [hfailed]
      constructor
      · intro h
        cases h
        exact ⟨[], first, others, rfl, by simp, resolve_eq_error_iff.mp hfailed⟩
      · rintro ⟨done, p, rest, hsplit, hdone, hfails⟩
        cases done with
        | nil =>
          obtain ⟨rfl, rfl⟩ := List.cons.inj hsplit
          exact hfailed.symm.trans (resolve_eq_error_iff.mpr hfails)
        | cons q done =>
          obtain ⟨rfl, rfl⟩ := List.cons.inj hsplit
          obtain ⟨value, hhas⟩ := hdone first List.mem_cons_self
          cases hfailed.symm.trans (resolve_eq_ok_iff.mpr hhas)

/-- The list of placeholders goes from the last one to the first. -/
theorem starts_descend {template : String} {found : List Placeholder}
    (h : locate template = .ok found) :
    found.Pairwise fun p q => q.selection.start.offset < p.selection.start.offset := by
  have hlocated := located_of_locate h
  refine (List.pairwise_reverse.mp hlocated.ordered).imp_of_mem fun {p q} _ hq hle => ?_
  have hinside := hlocated.inside q (List.mem_reverse.mpr hq)
  omega

/-- The placeholder that fails first in the list is the last one of the template to fail. -/
theorem substitute_located_eq_error_iff {template : String} {found : List Placeholder}
    {fault : Fault} (h : locate template = .ok found) :
    substitute renderer table found template = .error fault ↔
      ∃ p ∈ found, Fails renderer table p fault ∧
        ∀ q ∈ found, p.selection.start.offset < q.selection.start.offset →
          ∃ value, HasValue renderer table q value := by
  have hdescend := starts_descend h
  rw [substitute_eq_error_iff]
  constructor
  · rintro ⟨done, p, rest, rfl, hdone, hfails⟩
    refine ⟨p, by simp, hfails, fun q hq hlt => ?_⟩
    have hbefore := (List.pairwise_cons.mp (List.pairwise_append.mp hdescend).2.1).1
    rcases List.mem_append.mp hq with hq | hq
    · exact hdone q hq
    · rcases List.mem_cons.mp hq with rfl | hq
      · omega
      · have hgt := hbefore q hq
        omega
  · rintro ⟨p, hp, hfails, hothers⟩
    obtain ⟨done, rest, rfl⟩ := List.append_of_mem hp
    refine ⟨done, p, rest, rfl, fun q hq => ?_, hfails⟩
    have hlt := (List.pairwise_append.mp hdescend).2.2 q hq p List.mem_cons_self
    exact hothers q (List.mem_append_left _ hq) hlt

/-- A document without errors is rendered as its variables are into the template. -/
theorem map_html_render (renderer : Renderer) (precedence : Precedence)
    (source template : String) :
    (Document.render renderer precedence source template).map Page.html =
      match Document.parse source with
      | .error e => .error (.render e)
      | .ok document => render renderer (document.table precedence) template := by
  unfold Document.render render
  cases Document.parse source with
  | error e => rfl
  | ok document =>
    rw [mapError_eq_ok_iff.mpr rfl]
    cases locate template with
    | error fault => rfl
    | ok found =>
      dsimp only
      cases substitute renderer (document.table precedence) found template <;> rfl

/-- Rendering is all or nothing. It succeeds if every placeholder has a value. Otherwise
    the error is that of the template itself or else of the last placeholder to fail: one
    without a position is told with the variable's name behind its message. A document's
    own error comes before those of the template. -/
theorem outcome_spec (renderer : Renderer) (table : Variables) (template : String) :
    ((∃ html, render renderer table template = .ok html) ↔
        ∃ found, locate template = .ok found ∧
          ∀ p ∈ found, ∃ value, HasValue renderer table p value) ∧
      (∀ fault, render renderer table template = .error fault ↔
        locate template = .error fault ∨ ∃ found, locate template = .ok found ∧
          ∃ p ∈ found, Fails renderer table p fault ∧
            ∀ q ∈ found, p.selection.start.offset < q.selection.start.offset →
              ∃ value, HasValue renderer table q value) ∧
      (∀ cause name, (Cause.inPlaceholder cause name).message =
        cause.message ++ " in \"" ++ name ++ "\"") ∧
      ∀ precedence source,
        (Document.render renderer precedence source template).map Page.html =
          match Document.parse source with
          | .error e => .error (.render e)
          | .ok document => render renderer (document.table precedence) template := by
  refine ⟨?_, fun fault => ?_, fun _ _ => rfl, fun precedence source =>
    map_html_render renderer precedence source template⟩
  · unfold render
    cases hlocate : locate template with
    | error fault => simp
    | ok found =>
      simp only [exists_substitute_iff, Except.ok.injEq]
      exact ⟨fun h => ⟨found, rfl, h⟩, fun ⟨_, heq, h⟩ => heq ▸ h⟩
  · unfold render
    cases hlocate : locate template with
    | error failed => simp
    | ok found =>
      simp only [substitute_located_eq_error_iff hlocate, Except.ok.injEq, reduceCtorEq, false_or]
      exact ⟨fun h => ⟨found, rfl, h⟩, fun ⟨_, heq, h⟩ => heq ▸ h⟩

end StaticPages.Template
