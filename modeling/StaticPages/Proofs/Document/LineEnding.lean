import Mathlib.Data.List.Induction
import StaticPages.Document.Basic
import StaticPages.Proofs.Document.Agreement
import StaticPages.Proofs.Document.Heading

namespace StaticPages

namespace Text

/-- The text with a carriage return before each line feed. -/
def addReturns : List Char → List Char
  | [] => []
  | c :: cs => if c = '\n' then '\r' :: '\n' :: addReturns cs else c :: addReturns cs

/-- The text without the carriage returns that stand before line feeds. -/
def dropReturns : List Char → List Char
  | '\r' :: '\n' :: cs => '\n' :: dropReturns cs
  | c :: cs => c :: dropReturns cs
  | [] => []

/-- Whether the texts are one, without carriage returns and with one before each line feed. -/
def WithReturns (xs ys : List Char) : Prop :=
  '\r' ∉ xs ∧ ys = addReturns xs

def withReturns (text : String) : String :=
  String.ofList (addReturns text.toList)

def withoutReturns (text : String) : String :=
  String.ofList (dropReturns text.toList)

theorem addReturns_append (xs ys : List Char) :
    addReturns (xs ++ ys) = addReturns xs ++ addReturns ys := by
  induction xs with
  | nil => rfl
  | cons x xs ih =>
    simp only [List.cons_append, addReturns, ih]
    split <;> rfl

theorem dropReturns_of_not_mem {cs : List Char} (h : '\r' ∉ cs) : dropReturns cs = cs := by
  fun_induction dropReturns cs with
  | case1 cs ih => simp at h
  | case2 c cs _ ih => rw [ih fun hmem => h (List.mem_cons_of_mem c hmem)]
  | case3 => rfl

theorem dropReturns_addReturns {cs : List Char} (h : '\r' ∉ cs) :
    dropReturns (addReturns cs) = cs := by
  induction cs with
  | nil => rfl
  | cons c cs ih =>
    obtain ⟨hc, hcs⟩ := not_or.mp (mt List.mem_cons.mpr h)
    rw [addReturns]
    split
    · next hfeed => rw [dropReturns, ih hcs, hfeed]
    · rw [dropReturns.eq_2 _ _ fun _ hreturn _ => hc hreturn.symm, ih hcs]

theorem WithReturns.dropReturns_eq {xs ys : List Char} (h : WithReturns xs ys) :
    dropReturns xs = dropReturns ys := by
  rw [h.2, dropReturns_addReturns h.1, dropReturns_of_not_mem h.1]

theorem WithReturns.step {xs ys : List Char} (h : WithReturns xs ys) : Step WithReturns xs ys := by
  obtain ⟨hxs, rfl⟩ := h
  cases xs with
  | nil => exact .nil
  | cons x xs =>
    have hrest : WithReturns xs (addReturns xs) :=
      ⟨fun hmem => hxs (List.mem_cons_of_mem x hmem), rfl⟩
    rw [addReturns]
    split
    · next hfeed => exact hfeed ▸ .ending hrest
    · exact .same hrest

theorem lexical_withReturns : Lexical WithReturns where
  step := WithReturns.step
  plain h := .inr h.1
  front := by
    rintro xs ys zs ws ⟨hxs, h⟩ ⟨-, rfl⟩
    rw [addReturns_append] at h
    exact ⟨fun hmem => hxs (List.mem_append_left zs hmem), List.append_cancel_right h⟩

theorem trimEndChars_addReturns (cs : List Char) :
    trimEndChars (addReturns cs) = addReturns (trimEndChars cs) := by
  induction cs using List.reverseRecOn with
  | nil => rfl
  | append_singleton cs x ih =>
    rw [addReturns_append]
    cases hx : isSpace x with
    | true =>
      have hall : ∀ y ∈ addReturns [x], isSpace y = true := by
        simp only [addReturns]
        split
        · simp [isSpace]
        · simpa using hx
      rw [trimEndChars_append hall, trimEndChars_append (by simpa using hx), ih]
    | false =>
      have hfeed : x ≠ '\n' := by
        rintro rfl
        cases hx
      have hlast (xs : List Char) : trimEndChars (xs ++ [x]) = xs ++ [x] := by
        simp [trimEndChars, hx]
      simp only [addReturns, if_neg hfeed, hlast, addReturns_append]

theorem WithReturns.trimChars {xs ys : List Char} (h : WithReturns xs ys) :
    WithReturns (trimChars xs) (trimChars ys) := by
  obtain ⟨hxs, hys⟩ := lexical_withReturns.dropWhile (f := isSpace) rfl h
  rw [Text.trimChars, Text.trimChars, hys, trimEndChars_addReturns]
  have hsub : (trimEndChars (xs.dropWhile isSpace)).Sublist (xs.dropWhile isSpace) := by
    have hreverse := (List.dropWhile_sublist (l := (xs.dropWhile isSpace).reverse) isSpace).reverse
    rwa [List.reverse_reverse] at hreverse
  exact ⟨fun hmem => hxs (hsub.subset hmem), rfl⟩

theorem withoutReturns_eq_of_sameText {a b : String} (h : SameText WithReturns a b) :
    withoutReturns a = withoutReturns b := by
  rcases h with rfl | h
  · rfl
  · rw [withoutReturns, withoutReturns, h.dropReturns_eq]

theorem withoutReturns_eq_of_sameTitle {a b : String} (h : Heading.SameTitle WithReturns a b) :
    withoutReturns a = withoutReturns b := by
  rcases h with rfl | ⟨raw, raw', h, rfl, rfl⟩
  · rfl
  · simp only [withoutReturns, trim, String.toList_ofList, h.trimChars.dropReturns_eq]

end Text

section Lines

variable {R : List Char → List Char → Prop} {xs ys : List Char} {c d : Cursor}

/-- The line on which the text ahead of a cursor ends. -/
def Cursor.lastLine (c : Cursor) : Nat :=
  c.position.line + c.ahead.count '\n'

theorem Cursor.Reaches.lastLine_eq (h : c.Reaches d) : d.lastLine = c.lastLine := by
  obtain ⟨taken, hahead, hposition⟩ := h
  rw [lastLine, lastLine, hposition, Position.after_line, hahead, List.count_append]
  omega

theorem Lexical.count_eq (hR : Lexical R) (h : R xs ys) : xs.count '\n' = ys.count '\n' := by
  induction xs generalizing ys with
  | nil =>
    cases hR.step h with
    | nil => rfl
  | cons x xs ih =>
    cases hR.step h with
    | same hrest => simp only [List.count_cons, ih hrest]
    | ending hrest => simp [ih hrest]

theorem Step.count_eq (hR : Lexical R) (h : Step R xs ys) : xs.count '\n' = ys.count '\n' := by
  cases h with
  | nil => rfl
  | same hrest => simp only [List.count_cons, hR.count_eq hrest]
  | ending hrest => simp [hR.count_eq hrest]

/-- Places abreast in texts with the same lines stand on the same line. -/
theorem Position.Abreast.line_eq {p q : Position}
    (hcount : ∀ {xs ys}, R xs ys → xs.count '\n' = ys.count '\n') (hlast : c.lastLine = d.lastLine)
    (h : Position.Abreast R c d p q) : p.line = q.line := by
  obtain ⟨e, f, hplaces, rfl, rfl⟩ := h
  have hleft := hplaces.left.lastLine_eq
  have hright := hplaces.right.lastLine_eq
  have hahead := hcount hplaces.ahead
  simp only [Cursor.lastLine] at hlast hleft hright
  omega

end Lines

namespace Document

open Text

/-- The document without the carriage returns before line feeds. -/
def withoutReturns (d : Document) : Document :=
  ⟨d.metadata.map fun e => ⟨e.key, Text.withoutReturns e.value⟩, d.title.map Text.withoutReturns,
    Text.withoutReturns d.body⟩

/-- Whether two errors are the same and stand on the same line. -/
structure SameError (e f : RenderError) : Prop where
  kind : e.kind = f.kind
  cause : e.cause = f.cause
  line : ∃ p q, e.position = some p ∧ f.position = some q ∧ p.line = q.line

theorem sameError_ofFailure {R : List Char → List Char → Prop} {c d : Cursor} {f g : Failure}
    (hcount : ∀ {xs ys}, R xs ys → xs.count '\n' = ys.count '\n') (hlast : c.lastLine = d.lastLine)
    (h : Failure.Abreast R c d f g) (kind : ErrorKind) :
    SameError (.ofFailure f kind) (.ofFailure g kind) := by
  obtain ⟨hproblem, hkind, hposition⟩ := h
  exact ⟨congrArg (·.getD kind) hkind, congrArg Cause.parse hproblem, _, _, rfl, rfl,
    hposition.line_eq hcount hlast⟩

theorem metadata_eq {a b : List Entry} (h : List.Forall₂ (Entry.Same WithReturns) a b) :
    (a.map fun e => (⟨e.key, Text.withoutReturns e.value⟩ : Entry)) =
      b.map fun e => ⟨e.key, Text.withoutReturns e.value⟩ := by
  induction h with
  | nil => rfl
  | cons hentry _ ih =>
    rw [List.map_cons, List.map_cons, ih, hentry.1, withoutReturns_eq_of_sameText hentry.2]

theorem declaresTitle_eq {R : List Char → List Char → Prop} {a b : List Entry}
    (h : List.Forall₂ (Entry.Same R) a b) : declaresTitle a = declaresTitle b := by
  induction h with
  | nil => rfl
  | cons hentry _ ih =>
    simp only [declaresTitle, List.any_cons, hentry.1] at ih ⊢
    rw [ih]

theorem withoutReturns_eq_of_step {xs ys : List Char} (hxs : '\r' ∉ xs)
    (h : Step WithReturns xs ys) :
    Text.withoutReturns (String.ofList xs) = Text.withoutReturns (String.ofList ys) := by
  simp only [Text.withoutReturns, String.toList_ofList]
  cases h with
  | nil => rfl
  | @same x xs ys hrest =>
    have hx : x ≠ '\r' := fun heq => hxs (heq ▸ List.mem_cons_self)
    rw [dropReturns.eq_2 _ _ fun _ hreturn _ => hx hreturn,
      dropReturns.eq_2 _ _ fun _ hreturn _ => hx hreturn, hrest.dropReturns_eq]
  | ending hrest =>
    rw [dropReturns, dropReturns.eq_2 _ _ fun _ hreturn _ => absurd hreturn (by decide),
      hrest.dropReturns_eq]

/-- Line endings are transparent: with a carriage return before each line feed a source
    has the same entries, title and body but for these returns, or the same error on
    the same line. -/
theorem parse_withReturns {source : String} (h : '\r' ∉ source.toList) :
    (∃ a b, parse source = .ok a ∧ parse (Text.withReturns source) = .ok b ∧
        a.withoutReturns = b.withoutReturns) ∨
      ∃ e f, parse source = .error e ∧ parse (Text.withReturns source) = .error f ∧
        SameError e f := by
  have hR := lexical_withReturns
  have hstart : WithReturns (Cursor.ofString source).ahead
      (Cursor.ofString (Text.withReturns source)).ahead := ⟨h, String.toList_ofList⟩
  have hlast : (Cursor.ofString source).lastLine =
      (Cursor.ofString (Text.withReturns source)).lastLine :=
    congrArg (1 + ·) (hR.count_eq hstart)
  unfold parse
  obtain ⟨a, b, e, f, hc, hd, hentries, hrest⟩ | ⟨f, g, hc, hd, hfails⟩ :=
    Metadata.read_cases hR hstart
  · have hrestLast : e.lastLine = f.lastLine :=
      hrest.left.lastLine_eq.trans (hlast.trans hrest.right.lastLine_eq.symm)
    simp only [hc, hd]
    obtain ⟨title, title', e', f', hx, hy, htitle, hbody⟩ | ⟨failure, other, hx, hy, hfails⟩ :=
      (Heading.parse_agree hR hrest.ahead).cases
    · obtain ⟨taken, htaken, -⟩ := hbody.left
      have hplain : '\r' ∉ e'.ahead := fun hmem =>
        hrest.ahead.1 (htaken ▸ List.mem_append_right taken hmem)
      simp only [hx, hy]
      refine .inl ⟨_, _, rfl, rfl, ?_⟩
      simp only [withoutReturns, Option.map_some, metadata_eq hentries, Cursor.fragment,
        withoutReturns_eq_of_sameTitle htitle, withoutReturns_eq_of_step hplain hbody.ahead]
    · simp only [hx, hy, declaresTitle_eq hentries]
      split
      · refine .inl ⟨_, _, rfl, rfl, ?_⟩
        simp only [withoutReturns, Option.map_none, metadata_eq hentries, Cursor.fragment,
          withoutReturns_eq_of_step hrest.ahead.1 (hR.step hrest.ahead)]
      · exact .inr ⟨_, _, rfl, rfl, sameError_ofFailure (Step.count_eq hR) hrestLast hfails _⟩
  · simp only [hc, hd]
    exact .inr ⟨_, _, rfl, rfl, sameError_ofFailure hR.count_eq hlast hfails _⟩

/-- A string over two lines, whose carriage return stays in the value. -/
theorem parse_withReturns_quoted :
    '\r' ∉ ":meta\nnote = \"a\nb\"\n:meta\n# T\nText\n".toList ∧
      ∃ a b, parse ":meta\nnote = \"a\nb\"\n:meta\n# T\nText\n" = .ok a ∧
        parse ":meta\r\nnote = \"a\r\nb\"\r\n:meta\r\n# T\r\nText\r\n" = .ok b ∧
        a.withoutReturns = b.withoutReturns := by
  have hplain : '\r' ∉ ":meta\nnote = \"a\nb\"\n:meta\n# T\nText\n".toList := by decide
  have hread : parse ":meta\nnote = \"a\nb\"\n:meta\n# T\nText\n" =
      .ok ⟨[⟨"note", "a\nb"⟩], some "T", "\nText\n"⟩ := by decide +kernel
  refine ⟨hplain, (parse_withReturns hplain).resolve_right ?_⟩
  rintro ⟨e, f, hrefused, -⟩
  cases hread.symm.trans hrefused

end Document

end StaticPages
