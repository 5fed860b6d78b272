import StaticPages.Proofs.Filter.Apply
import StaticPages.Proofs.Filter.Binding
import StaticPages.Proofs.Template.Outcome

namespace StaticPages

namespace Filter

theorem withinLimits_of_pipeline {c d : Cursor} {found : List Filter}
    (h : pipeline c = .ok (found, d)) : ∀ filter ∈ found, filter.WithinLimits := by
  fun_induction pipeline c generalizing found with
  | case1 =>
    cases h
    simp
  | case2 => cases h
  | case3 c pipe hpipe filter rest hfilter others after hothers ih =>
    cases h
    exact List.forall_mem_cons.mpr ⟨withinLimits_of_parse hfilter, ih hothers⟩
  | case4 => cases h

end Filter

namespace Placeholder

open StaticPages.Filter (WithinLimits)

theorem withinLimits_of_parse {c d : Cursor} {p : Placeholder} (h : parse c = .ok (p, d)) :
    ∀ filter ∈ p.filters, filter.WithinLimits := by
  unfold parse at h
  split at h
  · cases h
  · split at h
    · cases h
    · split at h
      · cases h
      · next hfilters =>
        split at h
        · cases h
        · cases h
          exact Filter.withinLimits_of_pipeline hfilters

theorem withinLimits_of_scan {c : Cursor} {found : List Placeholder} (h : scan c = .ok found) :
    ∀ p ∈ found, ∀ filter ∈ p.filters, filter.WithinLimits := by
  fun_induction scan c generalizing found with
  | case1 =>
    cases h
    simp
  | case2 => cases h
  | case3 c hne hopens first rest hparse later hlater ih =>
    cases h
    exact List.forall_mem_cons.mpr ⟨withinLimits_of_parse hparse, ih hlater⟩
  | case4 => cases h
  | case5 c hne hopens ih => exact ih h

end Placeholder

namespace Template

open StaticPages.Filter (IsNumber Rounding maxPrecision)

variable {renderer : Renderer} {table : Variables}

theorem withinLimits_of_locate {template : String} {found : List Placeholder}
    (h : locate template = .ok found) :
    ∀ p ∈ found, ∀ filter ∈ p.filters, filter.WithinLimits := by
  have hlocate := mapError_eq_ok_iff.mp h
  unfold Placeholder.locate at hlocate
  split at hlocate
  · next scanned hscan =>
    cases hlocate
    exact fun p hp => Placeholder.withinLimits_of_scan hscan p (List.mem_reverse.mp hp)
  · cases hlocate

/-- How a placeholder of a template fails: its variable is not defined, or a filter that
    rounds numbers is given something else by the filters before it. -/
inductive Misses (renderer : Renderer) (table : Variables) (p : Placeholder) : Fault → Prop
  | undefined (hname : table.get? p.name = none) :
      Misses renderer table p
        (.render ⟨.undefinedVariable, .undefinedVariable p.name, some p.selection.start⟩)
  | noNumber {raw current : String} {before after : List Filter} {r : Rounding}
      (hname : table.get? p.name = some raw) (hfilters : p.filters = before ++ r.filter :: after)
      (hbefore : Filter.applyAll renderer before raw = .ok current)
      (hcurrent : ∀ d, ¬ IsNumber current d) :
      Misses renderer table p
        (.render ⟨.invalidFilterInput, .inPlaceholder (Filter.refusal r.name current) p.name,
          some p.selection.start⟩)

/-- No filter within its limits fails in another way, unless the renderer does. -/
theorem fails_iff_misses (hrenderer : ∀ text, ∃ html, renderer text = .ok html)
    {p : Placeholder} (hlimits : ∀ filter ∈ p.filters, filter.WithinLimits) {fault : Fault} :
    Fails renderer table p fault ↔ Misses renderer table p fault := by
  have hsteps {raw : String} {failed : Fault} :
      Filter.applyAll renderer p.filters raw = .error failed ↔
        ∃ before, ∃ r : Rounding, ∃ after current, p.filters = before ++ r.filter :: after ∧
          Filter.applyAll renderer before raw = .ok current ∧ (∀ d, ¬ IsNumber current d) ∧
          failed = .render ⟨.invalidFilterInput, Filter.refusal r.name current, none⟩ := by
    rw [Filter.applyAll_eq_error_iff]
    constructor
    · rintro ⟨before, filter, after, current, hsplit, hbefore, hfilter⟩
      have hwithin := hlimits filter (by simp [hsplit])
      obtain ⟨r, hplaces, rfl⟩ | htotal := hwithin.cases hrenderer
      · obtain ⟨hcurrent, hfailed⟩ := (Rounding.apply_filter_eq_error_iff hplaces).mp hfilter
        exact ⟨before, r, after, current, hsplit, hbefore, hcurrent, hfailed⟩
      · obtain ⟨next, hnext⟩ := htotal current
        cases hfilter.symm.trans hnext
    · rintro ⟨before, r, after, current, hsplit, hbefore, hcurrent, hfailed⟩
      have hplaces : r.places ≤ maxPrecision :=
        Rounding.places_le_of_withinLimits (hlimits r.filter (by simp [hsplit]))
      exact ⟨before, r.filter, after, current, hsplit, hbefore,
        (Rounding.apply_filter_eq_error_iff hplaces).mpr ⟨hcurrent, hfailed⟩⟩
  constructor
  · intro h
    cases h with
    | undefined hname => exact .undefined hname
    | unplaced hname hfilters =>
      obtain ⟨before, r, after, current, hsplit, hbefore, hcurrent, hfailed⟩ := hsteps.mp hfilters
      cases hfailed
      exact .noNumber hname hsplit hbefore hcurrent
    | placed hname hfilters =>
      obtain ⟨_, _, _, _, _, _, _, hfailed⟩ := hsteps.mp hfilters
      cases hfailed
    | foreign hname hfilters =>
      obtain ⟨_, _, _, _, _, _, _, hfailed⟩ := hsteps.mp hfilters
      cases hfailed
  · intro h
    cases h with
    | undefined hname => exact .undefined hname
    | noNumber hname hsplit hbefore hcurrent =>
      exact .unplaced hname (hsteps.mpr ⟨_, _, _, _, hsplit, hbefore, hcurrent, rfl⟩)

/-- Filters that are read from a text cannot go wrong later. Their numbers are within their
    limits and those that are written. A template whose placeholders are read is rendered,
    with a renderer that takes every text, unless a variable is not defined or something
    that is no number is to be rounded; the error is then that of a placeholder of the
    template and tells its start. -/
theorem parsed_filters_spec :
    (∀ c filter d, Filter.parse c = .ok (filter, d) →
        filter.WithinLimits ∧
          ∃ written named name given, Token.identifier c.skipBlanks = .ok (written, named) ∧
            Filter.Name.ofText? written = some name ∧
            Filter.arguments named = .ok (given, d) ∧ filter.NumbersFrom name given) ∧
      ∀ renderer table template found fault, (∀ text, ∃ html, renderer text = .ok html) →
        locate template = .ok found →
          (render renderer table template = .error fault ↔
            ∃ p ∈ found, Misses renderer table p fault ∧
              ∀ q ∈ found, p.selection.start.offset < q.selection.start.offset →
                ∃ value, HasValue renderer table q value) := by
  constructor
  · intro c filter d hparse
    exact ⟨Filter.withinLimits_of_parse hparse, Filter.numbersFrom_of_parse hparse⟩
  · intro renderer table template found fault hrenderer hlocate
    have hlimits := withinLimits_of_locate hlocate
    rw [render, hlocate]
    simp only [substitute_located_eq_error_iff hlocate]
    exact exists_congr fun p => and_congr_right fun hp =>
      and_congr_left' (fails_iff_misses hrenderer (hlimits p hp))

/-- A price that is no number once its commas are points. -/
theorem parsed_filters_spec_price :
    let template := "<b>\x7b\x7b £price | replace = \",\", replacement: . " ++
      "| round = 9, precision: 02 \x7d\x7d</b>"
    let filters : List Filter := [.replace "," "." none, .round (Decimal.ofNat 2)]
    let p : Placeholder := ⟨"price", filters, ⟨⟨1, 3⟩, ⟨1, 74⟩⟩⟩
    let fault : Fault := .render ⟨.invalidFilterInput,
      .inPlaceholder (.notANumber "round" "1.2.3") "price", some ⟨1, 3⟩⟩
    locate template = .ok [p] ∧
      render (fun text => .ok text) [("price", "1,2,3")] template = .error fault ∧
      Misses (fun text => .ok text) [("price", "1,2,3")] p fault := by
  intro template filters p fault
  have hlocate : locate template = .ok [p] := by decide +kernel
  have hrender : render (fun text => .ok text) [("price", "1,2,3")] template = .error fault := by
    decide +kernel
  obtain ⟨q, hq, hmisses, -⟩ :=
    (parsed_filters_spec.2 _ _ _ _ _ (fun text => ⟨text, rfl⟩) hlocate).mp hrender
  obtain rfl := List.mem_singleton.mp hq
  exact ⟨hlocate, hrender, hmisses⟩

end Template

end StaticPages
