import StaticPages.Filter.Parser
import StaticPages.Proofs.Source.Agreement

namespace StaticPages.Filter

open Token

namespace Argument

/-- One round of reading a list, without the facts that end the recursion. -/
theorem list_eq (c : Cursor) :
    list c =
      match parse c with
      | .error f => .error f
      | .ok (first, rest) =>
        match rest.after? "," with
        | none => .ok ([first], rest)
        | some next =>
          match list next with
          | .ok (others, after) => .ok (first :: others, after)
          | .error f => .error f := by
  conv => lhs; rw [list]
  cases parse c with
  | error f => rfl
  | ok read =>
    obtain ⟨first, rest⟩ := read
    simp only
    cases rest.after? "," <;> rfl

variable {c d : Cursor}

theorem valueText_agree (h : c.ahead = d.ahead) :
    Agree Eq Eq c d (valueText c) (valueText d) := by
  have hstart := Cursor.abreast_skipBlanks lexical_eq h
  have hhead : c.skipBlanks.head? = d.skipBlanks.head? := congrArg List.head? hstart.ahead
  unfold valueText
  simp only [hhead, hstart.ahead]
  split
  · obtain ⟨a, b, e, f, hc, hd, hvalue, hclosed⟩ | ⟨failure, other, hc, hd, hfails⟩ :=
      (quotedString_agree lexical_eq hstart.ahead).cases
    · simp only [hc, hd]
      refine .read (hvalue.elim id String.toList_inj.mp) ?_
      exact (hstart.trans hclosed).trans (Cursor.abreast_skipBlanks lexical_eq hclosed.ahead)
    · simp only [hc, hd]
      exact .refused (hfails.behind hstart)
  · split
    · exact .refuse hstart _
    · exact .read rfl (hstart.trans (Cursor.abreast_drop hstart.ahead _))

theorem labelled_agree (h : c.ahead = d.ahead) :
    Agree Eq Eq c d (labelled c) (labelled d) := by
  have hstart := Cursor.abreast_skipBlanks lexical_eq h
  unfold labelled
  obtain ⟨label, _, e, f, hc, hd, rfl, hnamed⟩ | ⟨failure, other, hc, hd, hfails⟩ :=
    (identifier_agree lexical_eq hstart.ahead).cases
  · have hskip := (hstart.trans hnamed).trans (Cursor.abreast_skipBlanks lexical_eq hnamed.ahead)
    simp only [hc, hd]
    obtain ⟨he, hf⟩ | ⟨e', f', he, hf, hcolon⟩ :=
      Cursor.after?_cases lexical_eq ":" (by decide) hskip.ahead
    · simp only [he, hf]
      exact .refuse hskip _
    · simp only [he, hf]
      obtain ⟨a, _, e'', f'', hx, hy, rfl, hrest⟩ | ⟨failure, other, hx, hy, hfails⟩ :=
        (valueText_agree hcolon.ahead).cases
      · simp only [hx, hy]
        exact .read rfl ((hskip.trans hcolon).trans hrest)
      · simp only [hx, hy]
        exact .refused (hfails.behind (hskip.trans hcolon))
  · simp only [hc, hd]
    exact .refused (hfails.behind hstart)

theorem hasLabel_eq (h : c.ahead = d.ahead) : hasLabel c = hasLabel d := by
  have hstart := Cursor.abreast_skipBlanks lexical_eq h
  unfold hasLabel
  obtain ⟨label, _, e, f, hc, hd, rfl, hnamed⟩ | ⟨failure, other, hc, hd, -⟩ :=
    (identifier_agree lexical_eq hstart.ahead).cases
  · have hhead : e.skipBlanks.head? = f.skipBlanks.head? :=
      congrArg List.head? (Cursor.abreast_skipBlanks lexical_eq hnamed.ahead).ahead
    simp only [hc, hd, hhead]
  · simp only [hc, hd]

theorem parse_agree (h : c.ahead = d.ahead) : Agree Eq Eq c d (parse c) (parse d) := by
  unfold parse
  rw [hasLabel_eq h]
  split
  · exact labelled_agree h
  · obtain ⟨a, _, e, f, hc, hd, rfl, hrest⟩ | ⟨failure, other, hc, hd, hfails⟩ :=
      (valueText_agree h).cases
    · simp only [hc, hd]
      exact .read rfl hrest
    · simp only [hc, hd]
      exact .refused hfails

theorem list_agree (h : c.ahead = d.ahead) : Agree Eq Eq c d (list c) (list d) := by
  induction hlength : c.ahead.length using Nat.strongRecOn generalizing c d with
  | ind n ih =>
    rw [list_eq c, list_eq d]
    obtain ⟨a, _, e, f, hc, hd, rfl, hrest⟩ | ⟨failure, other, hc, hd, hfails⟩ :=
      (parse_agree h).cases
    · simp only [hc, hd]
      obtain ⟨he, hf⟩ | ⟨e', f', he, hf, hcomma⟩ :=
        Cursor.after?_cases lexical_eq "," (by decide) hrest.ahead
      · simp only [he, hf]
        exact .read rfl hrest
      · have hle := (parse_reaches hc).length_le
        have hlt := Cursor.after?_length_lt (by decide) he
        simp only [he, hf]
        obtain ⟨others, _, g, i, hx, hy, rfl, hafter⟩ | ⟨failure, other, hx, hy, hfails⟩ :=
          (ih e'.ahead.length (by omega) hcomma.ahead rfl).cases
        · simp only [hx, hy]
          exact .read rfl ((hrest.trans hcomma).trans hafter)
        · simp only [hx, hy]
          exact .refused (hfails.behind (hrest.trans hcomma))
    · simp only [hc, hd]
      exact .refused hfails

end Argument

/-- One round of reading a pipeline, without the facts that end the recursion. -/
theorem pipeline_eq (c : Cursor) :
    pipeline c =
      match c.skipSpace.after? "|" with
      | none => .ok ([], c)
      | some pipe =>
        match parse pipe with
        | .error f => .error f
        | .ok (filter, rest) =>
          match pipeline rest with
          | .ok (others, after) => .ok (filter :: others, after)
          | .error f => .error f := by
  conv => lhs; rw [pipeline]
  cases c.skipSpace.after? "|" with
  | none => rfl
  | some pipe =>
    simp only
    cases parse pipe <;> rfl

variable {c d : Cursor}

theorem arguments_agree (h : c.ahead = d.ahead) :
    Agree Eq Eq c d (arguments c) (arguments d) := by
  have hskip := Cursor.abreast_skipBlanks lexical_eq h
  unfold arguments
  obtain ⟨hc, hd⟩ | ⟨e, f, hc, hd, hequals⟩ :=
    Cursor.after?_cases lexical_eq "=" (by decide) hskip.ahead
  · simp only [hc, hd]
    exact .read rfl (.refl h)
  · simp only [hc, hd]
    exact (Argument.list_agree hequals.ahead).behind (hskip.trans hequals)

theorem parse_agree (h : c.ahead = d.ahead) : Agree Eq Eq c d (parse c) (parse d) := by
  have hstart := Cursor.abreast_skipBlanks lexical_eq h
  unfold parse
  obtain ⟨written, _, e, f, hc, hd, rfl, hnamed⟩ | ⟨failure, other, hc, hd, -⟩ :=
    (identifier_agree lexical_eq hstart.ahead).cases
  · simp only [hc, hd]
    split
    · exact .refuse hstart _
    · next name hname =>
      obtain ⟨given, _, e', f', hx, hy, rfl, hrest⟩ | ⟨failure, other, hx, hy, hfails⟩ :=
        (arguments_agree hnamed.ahead).cases
      · simp only [hx, hy]
        split
        · exact .read rfl ((hstart.trans hnamed).trans hrest)
        · exact .refuse hstart _
      · simp only [hx, hy]
        exact .refused (hfails.behind (hstart.trans hnamed))
  · simp only [hc, hd]
    exact .refuse hstart _

theorem pipeline_agree (h : c.ahead = d.ahead) : Agree Eq Eq c d (pipeline c) (pipeline d) := by
  induction hlength : c.ahead.length using Nat.strongRecOn generalizing c d with
  | ind n ih =>
    have hskip := Cursor.abreast_skipSpace lexical_eq h
    rw [pipeline_eq c, pipeline_eq d]
    obtain ⟨hc, hd⟩ | ⟨e, f, hc, hd, hpipe⟩ :=
      Cursor.after?_cases lexical_eq "|" (by decide) hskip.ahead
    · simp only [hc, hd]
      exact .read rfl (.refl h)
    · simp only [hc, hd]
      obtain ⟨a, _, e', f', hx, hy, rfl, hrest⟩ | ⟨failure, other, hx, hy, hfails⟩ :=
        (parse_agree hpipe.ahead).cases
      · have hlt := Cursor.skipSpace_after?_length_lt (by decide) hc
        have hle := (parse_reaches hx).length_le
        have hplaces := (hskip.trans hpipe).trans hrest
        simp only [hx, hy]
        obtain ⟨others, _, g, i, hx, hy, rfl, hafter⟩ | ⟨failure, other, hx, hy, hfails⟩ :=
          (ih e'.ahead.length (by omega) hrest.ahead rfl).cases
        · simp only [hx, hy]
          exact .read rfl (hplaces.trans hafter)
        · simp only [hx, hy]
          exact .refused (hfails.behind hplaces)
      · simp only [hx, hy]
        exact .refused (hfails.behind (hskip.trans hpipe))

end StaticPages.Filter
