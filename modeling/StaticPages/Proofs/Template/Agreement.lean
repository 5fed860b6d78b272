import Mathlib.Data.List.Forall2
import StaticPages.Proofs.Filter.Agreement
import StaticPages.Template.Placeholder

namespace StaticPages.Placeholder

open Token

/-- Whether two placeholders are the same but for where their texts stand. -/
structure Alike (c d : Cursor) (p q : Placeholder) : Prop where
  name : p.name = q.name
  filters : p.filters = q.filters
  start : Position.Abreast Eq c d p.selection.start q.selection.start
  stop : Position.Abreast Eq c d p.selection.stop q.selection.stop

theorem Alike.behind {c d e f : Cursor} {p q : Placeholder} (hplaces : c.Abreast Eq d e f)
    (h : Alike e f p q) : Alike c d p q :=
  ⟨h.name, h.filters, h.start.behind hplaces, h.stop.behind hplaces⟩

/-- One round of scanning, without the facts that end the recursion. -/
theorem scan_eq (c : Cursor) :
    scan c =
      if c.ahead = [] then .ok []
      else if opens c then
        match parse c with
        | .error f => .error f
        | .ok (found, rest) =>
          match scan rest with
          | .ok later => .ok (found :: later)
          | .error f => .error f
      else scan (c.drop 1) := by
  conv => lhs; rw [scan]
  split
  · rfl
  · split
    · cases parse c <;> rfl
    · rfl

variable {c d : Cursor}

theorem opens_eq (h : c.ahead = d.ahead) : opens c = opens d := by
  unfold opens
  obtain ⟨hc, hd⟩ | ⟨e, f, hc, hd, hopened⟩ :=
    Cursor.after?_cases lexical_eq opening (by decide) h
  · simp only [hc, hd]
  · have hskip := Cursor.abreast_skipSpace lexical_eq hopened.ahead
    simp only [hc, hd, Cursor.startsWith, hskip.ahead]

theorem parse_agree (h : c.ahead = d.ahead) :
    Agree Eq (Alike c d) c d (parse c) (parse d) := by
  unfold parse
  obtain ⟨hc, hd⟩ | ⟨e, f, hc, hd, hopened⟩ :=
    Cursor.after?_cases lexical_eq opening (by decide) h
  · simp only [hc, hd]
    exact .refuse (.refl h) _
  · have hspace := hopened.trans (Cursor.abreast_skipSpace lexical_eq hopened.ahead)
    simp only [hc, hd]
    obtain ⟨name, _, e, f, hc, hd, rfl, hnamed⟩ | ⟨failure, other, hc, hd, hfails⟩ :=
      (variableName_agree lexical_eq hspace.ahead).cases
    · simp only [hc, hd]
      obtain ⟨filters, _, e, f, hc, hd, rfl, hfiltered⟩ | ⟨failure, other, hc, hd, hfails⟩ :=
        (Filter.pipeline_agree hnamed.ahead).cases
      · have hskip := ((hspace.trans hnamed).trans hfiltered).trans
          (Cursor.abreast_skipSpace lexical_eq hfiltered.ahead)
        simp only [hc, hd]
        obtain ⟨hc, hd⟩ | ⟨e, f, hc, hd, hclosed⟩ :=
          Cursor.after?_cases lexical_eq closing (by decide) hskip.ahead
        · simp only [hc, hd]
          exact .refuse hskip _
        · have hrest := hskip.trans hclosed
          simp only [hc, hd]
          exact .read ⟨rfl, rfl, ⟨c, d, .refl h, rfl, rfl⟩, ⟨e, f, hrest, rfl, rfl⟩⟩ hrest
      · simp only [hc, hd]
        exact .refused (hfails.behind (hspace.trans hnamed))
    · simp only [hc, hd]
      exact .refused (hfails.behind hspace)

/-- A text has the same placeholders wherever it stands, or is refused for the same
    reason. -/
theorem scan_cases (h : c.ahead = d.ahead) :
    (∃ found others, scan c = .ok found ∧ scan d = .ok others ∧
        List.Forall₂ (Alike c d) found others) ∨
      ∃ f g, scan c = .error f ∧ scan d = .error g ∧ Failure.Abreast Eq c d f g := by
  induction hlength : c.ahead.length using Nat.strongRecOn generalizing c d with
  | ind n ih =>
    rw [scan_eq c, scan_eq d, opens_eq h, h]
    by_cases hend : d.ahead = []
    · simp only [if_pos hend]
      exact .inl ⟨[], [], rfl, rfl, .nil⟩
    · simp only [if_neg hend]
      split
      · obtain ⟨p, q, e, f, hc, hd, halike, hrest⟩ | ⟨failure, other, hc, hd, hfails⟩ :=
          (parse_agree h).cases
        · have hlt := parse_length_lt hc
          simp only [hc, hd]
          obtain ⟨later, later', hx, hy, hlater⟩ | ⟨failure, other, hx, hy, hfails⟩ :=
            ih e.ahead.length (by omega) hrest.ahead rfl
          · refine .inl ⟨p :: later, q :: later', by simp only [hx], by simp only [hy], ?_⟩
            exact .cons halike (hlater.imp fun _ _ hsame => hsame.behind hrest)
          · exact .inr ⟨failure, other, by simp only [hx], by simp only [hy],
              hfails.behind hrest⟩
        · exact .inr ⟨failure, other, by simp only [hc], by simp only [hd], hfails⟩
      · have hstep := Cursor.abreast_drop h 1
        have hpos := List.length_pos_iff.mpr hend
        have hlt : (c.drop 1).ahead.length < n := by
          simp only [Cursor.drop, List.length_drop, h] at hlength ⊢
          omega
        obtain ⟨found, others, hx, hy, hsame⟩ | ⟨failure, other, hx, hy, hfails⟩ :=
          ih _ hlt hstep.ahead rfl
        · exact .inl ⟨found, others, hx, hy, hsame.imp fun _ _ hp => hp.behind hstep⟩
        · exact .inr ⟨failure, other, hx, hy, hfails.behind hstep⟩

end StaticPages.Placeholder
