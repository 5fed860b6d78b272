import StaticPages.Proofs.Source.Token

namespace StaticPages

/-- Whether `e` and `f` are places behind `c` and `d` and the texts ahead of them are
    related. -/
structure Cursor.Abreast (R : List Char → List Char → Prop) (c d e f : Cursor) : Prop where
  left : c.Reaches e
  right : d.Reaches f
  ahead : R e.ahead f.ahead

/-- Whether two positions are those of places abreast. -/
def Position.Abreast (R : List Char → List Char → Prop) (c d : Cursor) (p q : Position) : Prop :=
  ∃ e f, c.Abreast R d e f ∧ p = e.position ∧ q = f.position

/-- Whether two refusals have the same reason and stand at places abreast. -/
def Failure.Abreast (R : List Char → List Char → Prop) (c d : Cursor) (f g : Failure) : Prop :=
  f.problem = g.problem ∧ f.kind = g.kind ∧ Position.Abreast R c d f.position g.position

/-- Whether what a parser makes of the text at `c` is what it makes of that at `d`:
    related values with the rests abreast, or the same refusal. -/
inductive Agree {α : Type} (R : List Char → List Char → Prop) (V : α → α → Prop) (c d : Cursor) :
    Except Failure (α × Cursor) → Except Failure (α × Cursor) → Prop
  | read {a b : α} {e f : Cursor} (hvalue : V a b) (hrest : c.Abreast R d e f) :
      Agree R V c d (.ok (a, e)) (.ok (b, f))
  | refused {f g : Failure} (h : Failure.Abreast R c d f g) : Agree R V c d (.error f) (.error g)

/-- How related texts go on: with the same character, or the one with a line feed and
    the other with a carriage return before it. -/
inductive Step (R : List Char → List Char → Prop) : List Char → List Char → Prop
  | nil : Step R [] []
  | same {x : Char} {xs ys : List Char} (h : R xs ys) : Step R (x :: xs) (x :: ys)
  | ending {xs ys : List Char} (h : R xs ys) : Step R ('\n' :: xs) ('\r' :: '\n' :: ys)

/-- A relation of texts that differ in nothing but the endings of their lines. If they
    do, the first text has no carriage returns of its own. -/
structure Lexical (R : List Char → List Char → Prop) : Prop where
  step : ∀ {xs ys}, R xs ys → Step R xs ys
  plain : ∀ {xs ys}, R xs ys → xs = ys ∨ '\r' ∉ xs
  front : ∀ {xs ys zs ws}, R (xs ++ zs) (ys ++ ws) → R zs ws → R xs ys

theorem lexical_eq : Lexical Eq where
  step := by
    rintro xs _ rfl
    cases xs with
    | nil => exact .nil
    | cons x xs => exact .same rfl
  plain := .inl
  front := by
    rintro xs ys zs _ h rfl
    exact List.append_cancel_right h

/-- Whether a text has no line ending in it. -/
def Unbroken (token : List Char) : Prop :=
  '\n' ∉ token ∧ '\r' ∉ token

instance (token : List Char) : Decidable (Unbroken token) :=
  inferInstanceAs (Decidable (_ ∧ _))

theorem Unbroken.cons {x : Char} {token : List Char} (h : Unbroken (x :: token)) :
    (x ≠ '\n' ∧ x ≠ '\r') ∧ Unbroken token := by
  simp only [Unbroken, List.mem_cons, not_or] at h
  exact ⟨⟨Ne.symm h.1.1, Ne.symm h.2.1⟩, h.1.2, h.2.2⟩

theorem map_snd_map (f : List Char → List Char) (found : Option (List Char × List Char)) :
    (found.map fun (body, after) => (f body, after)).map Prod.snd = found.map Prod.snd := by
  cases found <;> rfl

variable {R : List Char → List Char → Prop}

namespace Cursor.Abreast

variable {c d e f g i : Cursor}

theorem refl (h : R c.ahead d.ahead) : c.Abreast R d c d :=
  ⟨.refl c, .refl d, h⟩

theorem trans (h : c.Abreast R d e f) (h' : e.Abreast R f g i) : c.Abreast R d g i :=
  ⟨h.left.trans h'.left, h.right.trans h'.right, h'.ahead⟩

theorem drop {m n : Nat} (h : R (c.ahead.drop m) (d.ahead.drop n)) :
    c.Abreast R d (c.drop m) (d.drop n) :=
  ⟨reaches_drop m c, reaches_drop n d, h⟩

theorem step (hR : Lexical R) (h : c.Abreast R d e f) : c.Abreast (Step R) d e f :=
  ⟨h.left, h.right, hR.step h.ahead⟩

end Cursor.Abreast

namespace Agree

variable {α : Type} {V : α → α → Prop} {c d e f : Cursor}
  {x y : Except Failure (α × Cursor)}

theorem cases (h : Agree R V c d x y) :
    (∃ a b e f, x = .ok (a, e) ∧ y = .ok (b, f) ∧ V a b ∧ c.Abreast R d e f) ∨
      ∃ f g, x = .error f ∧ y = .error g ∧ Failure.Abreast R c d f g := by
  cases h with
  | read hvalue hrest => exact .inl ⟨_, _, _, _, rfl, rfl, hvalue, hrest⟩
  | refused h => exact .inr ⟨_, _, rfl, rfl, h⟩

theorem refuse (h : c.Abreast R d e f) (problem : Problem) :
    Agree R V c d (e.refuse problem) (f.refuse problem) :=
  .refused ⟨rfl, rfl, e, f, h, rfl, rfl⟩

theorem refuseAs (h : c.Abreast R d e f) (kind : ErrorKind) (problem : Problem) :
    Agree R V c d (e.refuseAs kind problem) (f.refuseAs kind problem) :=
  .refused ⟨rfl, rfl, e, f, h, rfl, rfl⟩

end Agree

theorem Position.Abreast.behind {c d e f : Cursor} {p q : Position}
    (hplaces : c.Abreast R d e f) (h : Position.Abreast R e f p q) :
    Position.Abreast R c d p q := by
  obtain ⟨g, i, hgi, hposition⟩ := h
  exact ⟨g, i, hplaces.trans hgi, hposition⟩

theorem Failure.Abreast.behind {c d e f : Cursor} {failure other : Failure}
    (hplaces : c.Abreast R d e f) (h : Failure.Abreast R e f failure other) :
    Failure.Abreast R c d failure other :=
  ⟨h.1, h.2.1, h.2.2.behind hplaces⟩

/-- What is read behind places abreast is read behind the places before them. -/
theorem Agree.behind {α : Type} {V : α → α → Prop} {c d e f : Cursor}
    {x y : Except Failure (α × Cursor)} (hplaces : c.Abreast R d e f)
    (h : Agree R V e f x y) : Agree R V c d x y := by
  cases h with
  | read hvalue hrest => exact .read hvalue (hplaces.trans hrest)
  | refused h => exact .refused (h.behind hplaces)

namespace Lexical

variable (hR : Lexical R) {xs ys : List Char}

include hR

theorem nil_iff (h : R xs ys) : xs = [] ↔ ys = [] := by
  cases hR.step h <;> simp

theorem head?_eq_some_iff (h : R xs ys) {x : Char} (hfeed : x ≠ '\n') (hreturn : x ≠ '\r') :
    xs.head? = some x ↔ ys.head? = some x := by
  cases hR.step h with
  | nil => rfl
  | same => simp
  | ending => simp [hfeed.symm, hreturn.symm]

theorem dropWhile {f : Char → Bool} (hf : f '\r' = f '\n') (h : R xs ys) :
    R (xs.dropWhile f) (ys.dropWhile f) := by
  induction xs generalizing ys with
  | nil =>
    cases hR.step h with
    | nil => exact h
  | cons x xs ih =>
    cases hR.step h with
    | @same _ _ ys hrest =>
      simp only [List.dropWhile_cons]
      split
      · exact ih hrest
      · exact h
    | @ending _ ys hrest =>
      simp only [List.dropWhile_cons, hf]
      split
      · exact ih hrest
      · exact h

theorem takeWhile {f : Char → Bool} (hfeed : f '\n' = false) (hreturn : f '\r' = false)
    (h : R xs ys) : xs.takeWhile f = ys.takeWhile f := by
  induction xs generalizing ys with
  | nil =>
    cases hR.step h with
    | nil => rfl
  | cons x xs ih =>
    cases hR.step h with
    | same hrest => simp only [List.takeWhile_cons, ih hrest]
    | ending => simp [hfeed, hreturn]

theorem exists_prefix (token : List Char) {rest : List Char} (htoken : Unbroken token)
    (h : R (token ++ rest) ys) : ∃ rest', ys = token ++ rest' ∧ R rest rest' := by
  induction token generalizing ys with
  | nil => exact ⟨ys, rfl, h⟩
  | cons x token ih =>
    obtain ⟨hx, htoken⟩ := htoken.cons
    cases hR.step h with
    | same hmore =>
      obtain ⟨rest', rfl, hrest⟩ := ih htoken hmore
      exact ⟨rest', rfl, hrest⟩
    | ending => exact absurd rfl hx.1

theorem exists_prefix_left {token rest : List Char} (htoken : Unbroken token)
    (h : R xs (token ++ rest)) : ∃ rest', xs = token ++ rest' ∧ R rest' rest := by
  induction token generalizing xs with
  | nil => exact ⟨xs, rfl, h⟩
  | cons x token ih =>
    obtain ⟨hx, htoken⟩ := htoken.cons
    have hstep := hR.step h
    rw [List.cons_append] at hstep
    generalize htext : token ++ rest = ys at hstep
    cases hstep with
    | same hmore =>
      rw [← htext] at hmore
      obtain ⟨rest', rfl, hrest⟩ := ih htoken hmore
      exact ⟨rest', rfl, hrest⟩
    | ending => exact absurd rfl hx.2

/-- Lines of related texts are the same but for a carriage return at the end. -/
theorem line_cases (h : R xs ys) :
    ys.takeWhile (· != '\n') = xs.takeWhile (· != '\n') ∨
      ys.takeWhile (· != '\n') = xs.takeWhile (· != '\n') ++ ['\r'] := by
  induction xs generalizing ys with
  | nil =>
    cases hR.step h with
    | nil => exact .inl rfl
  | cons x xs ih =>
    cases hR.step h with
    | same hrest =>
      simp only [List.takeWhile_cons]
      split
      · simpa using ih hrest
      · exact .inl rfl
    | ending => exact .inr (by simp)

theorem line_eq (h : R xs ys) :
    Token.withoutReturn (ys.takeWhile (· != '\n')) =
      Token.withoutReturn (xs.takeWhile (· != '\n')) := by
  rcases hR.plain h with rfl | hplain
  · rfl
  · have hlast : (xs.takeWhile (· != '\n')).getLast? ≠ some '\r' := fun hlast =>
      hplain (List.takeWhile_sublist _ |>.subset (List.mem_of_getLast? hlast))
    rcases hR.line_cases h with hline | hline
    · rw [hline]
    · simp [hline, Token.withoutReturn, hlast]

theorem nextLine (h : R xs ys) :
    R ((xs.dropWhile (· != '\n')).drop 1) ((ys.dropWhile (· != '\n')).drop 1) := by
  induction xs generalizing ys with
  | nil =>
    cases hR.step h with
    | nil => exact h
  | cons x xs ih =>
    cases hR.step h with
    | same hrest =>
      simp only [List.dropWhile_cons]
      split
      · exact ih hrest
      · exact hrest
    | ending hrest => simpa using hrest

/-- Related texts close a string at the same quote. A backslash before a line ending
    hides the carriage return in the one text and the line feed in the other. -/
theorem closeQuote_rel (h : R xs ys) :
    Option.Rel (fun rest rest' => R ('"' :: rest) ('"' :: rest'))
      ((Token.closeQuote xs).map Prod.snd) ((Token.closeQuote ys).map Prod.snd) := by
  fun_induction Token.closeQuote xs generalizing ys with
  | case1 =>
    cases hR.step h with
    | nil => exact .none
  | case2 rest =>
    cases hR.step h with
    | same => exact .some h
  | case3 x rest ih =>
    rw [map_snd_map (fun body => '\\' :: x :: body)]
    cases hR.step h with
    | same hmore =>
      cases hR.step hmore with
      | @same _ _ ys hrest =>
        rw [Token.closeQuote, map_snd_map (fun body => '\\' :: x :: body)]
        exact ih hrest
      | @ending _ ys hrest =>
        rw [Token.closeQuote, map_snd_map (fun body => '\\' :: '\r' :: body),
          Token.closeQuote, map_snd_map (fun body => '\n' :: body)]
        · exact ih hrest
        · decide
        · simp
  | case4 x rest hquote hslash ih =>
    rw [map_snd_map (fun body => x :: body)]
    cases hR.step h with
    | @same _ _ ys hrest =>
      have hhidden : ∀ y zs, x = '\\' → ys = y :: zs → False := by
        rintro y zs rfl rfl
        cases rest with
        | nil => cases hR.step hrest
        | cons z rest => exact hslash z rest rfl rfl
      rw [Token.closeQuote.eq_4 _ _ hquote hhidden, map_snd_map (fun body => x :: body)]
      exact ih hrest
    | @ending _ ys hrest =>
      rw [Token.closeQuote, map_snd_map (fun body => '\r' :: body), Token.closeQuote,
        map_snd_map (fun body => '\n' :: body)]
      · exact ih hrest
      all_goals simp

theorem closeQuote_cases (h : R xs ys) :
    (Token.closeQuote xs = none ∧ Token.closeQuote ys = none) ∨
      ∃ body rest body' rest', Token.closeQuote xs = some (body, rest) ∧
        Token.closeQuote ys = some (body', rest') ∧ R body body' ∧ R rest rest' := by
  have hclose := hR.closeQuote_rel h
  cases hxs : Token.closeQuote xs with
  | none =>
    cases hys : Token.closeQuote ys with
    | none => exact .inl ⟨rfl, rfl⟩
    | some closed =>
      rw [hxs, hys] at hclose
      cases hclose
  | some closed =>
    cases hys : Token.closeQuote ys with
    | none =>
      rw [hxs, hys] at hclose
      cases hclose
    | some closed' =>
      rw [hxs, hys] at hclose
      cases hclose with
      | some hquote =>
        obtain ⟨body, rest⟩ := closed
        obtain ⟨body', rest'⟩ := closed'
        rw [Token.closeQuote_eq hxs, Token.closeQuote_eq hys] at h
        obtain ⟨more, hmore, hrest⟩ := hR.exists_prefix ['"'] (by decide) hquote
        cases hmore
        exact .inr ⟨body, rest, body', rest', rfl, rfl, hR.front h hquote, hrest⟩

end Lexical

/-- Whether two texts are the same or related. -/
def SameText (R : List Char → List Char → Prop) (a b : String) : Prop :=
  a = b ∨ R a.toList b.toList

namespace Cursor

theorem abreast_drop {c d : Cursor} (h : c.ahead = d.ahead) (n : Nat) :
    c.Abreast Eq d (c.drop n) (d.drop n) :=
  .drop (congrArg (List.drop n) h)

variable (hR : Lexical R) {c d : Cursor}

include hR

theorem abreast_skipWhile {f : Char → Bool} (hf : f '\r' = f '\n') (h : R c.ahead d.ahead) :
    c.Abreast R d (c.skipWhile f) (d.skipWhile f) :=
  ⟨reaches_skipWhile f c, reaches_skipWhile f d, hR.dropWhile hf h⟩

theorem abreast_skipBlanks (h : R c.ahead d.ahead) :
    c.Abreast R d c.skipBlanks d.skipBlanks :=
  abreast_skipWhile hR rfl h

theorem abreast_skipSpace (h : R c.ahead d.ahead) : c.Abreast R d c.skipSpace d.skipSpace :=
  abreast_skipWhile hR rfl h

theorem after?_cases (token : String) (htoken : Unbroken token.toList)
    (h : R c.ahead d.ahead) :
    (c.after? token = none ∧ d.after? token = none) ∨
      ∃ e f, c.after? token = some e ∧ d.after? token = some f ∧ c.Abreast R d e f := by
  cases hc : c.after? token with
  | none =>
    refine .inl ⟨rfl, after?_eq_none_iff.mpr ?_⟩
    intro rest hrest
    rw [hrest] at h
    obtain ⟨rest', hahead, -⟩ := hR.exists_prefix_left htoken h
    exact after?_eq_none_iff.mp hc rest' hahead
  | some e =>
    rw [ahead_of_after? hc] at h
    obtain ⟨rest, hahead, hrest⟩ := hR.exists_prefix _ htoken h
    obtain ⟨f, hf, rfl⟩ := exists_after? hahead
    exact .inr ⟨e, f, rfl, hf, reaches_after? hc, reaches_after? hf, hrest⟩

end Cursor

namespace Token

variable (hR : Lexical R) {c d : Cursor}

include hR

theorem restOfLine_agree (h : R c.ahead d.ahead) :
    (restOfLine d).1 = (restOfLine c).1 ∧ c.Abreast R d (restOfLine c).2 (restOfLine d).2 := by
  refine ⟨?_, restOfLine_reaches c, restOfLine_reaches d, hR.nextLine h⟩
  simp only [restOfLine, hR.line_eq h]

theorem identifier_agree (h : R c.ahead d.ahead) :
    Agree R Eq c d (identifier c) (identifier d) := by
  have hplaces := Cursor.abreast_skipWhile hR (f := isNameChar) rfl h
  have hname := hR.takeWhile (f := isNameChar) rfl rfl h
  have hself := Cursor.Abreast.refl h
  obtain ⟨xs, p⟩ := c
  obtain ⟨ys, q⟩ := d
  simp only at h hname
  cases hR.step h with
  | nil => exact .refuse hself _
  | @same x =>
    cases hx : x.isAlpha with
    | false =>
      simp only [identifier, Cursor.head?, List.head?_cons, hx, Bool.false_eq_true, if_false]
      exact .refuse hself _
    | true =>
      simp only [identifier, Cursor.head?, List.head?_cons, hx, if_true, Cursor.takeWhile, hname]
      exact .read rfl hplaces
  | ending => exact .refuse hself _

theorem variableName_agree (h : R c.ahead d.ahead) :
    Agree R Eq c d (variableName c) (variableName d) := by
  unfold variableName
  obtain ⟨hc, hd⟩ | ⟨e, f, hc, hd, hnamed⟩ := Cursor.after?_cases hR sigil (by decide) h
  · rw [hc, hd]
    exact .refuse (.refl h) _
  · rw [hc, hd]
    obtain ⟨a, b, e', f', he, hf, hvalue, hrest⟩ | ⟨failure, other, he, hf, -⟩ :=
      (identifier_agree hR hnamed.ahead).cases
    · simp only [he, hf]
      exact .read hvalue (hnamed.trans hrest)
    · simp only [he, hf]
      exact .refuse hnamed _

omit hR in
theorem quotedString_of_head?_ne (h : c.ahead.head? ≠ some '"') :
    quotedString c = c.refuse .noQuotedString := by
  unfold quotedString
  split
  · next heq => exact absurd (by rw [heq]; rfl) h
  · rfl

/-- The bodies of two strings are related as the texts are. -/
theorem quotedString_agree (h : R c.ahead d.ahead) :
    Agree R (SameText R) c d (quotedString c) (quotedString d) := by
  have hself := Cursor.Abreast.refl h
  have hquote := hR.head?_eq_some_iff h (x := '"') (by decide) (by decide)
  by_cases hhead : c.ahead.head? = some '"'
  · obtain ⟨xs, hc⟩ := List.head?_eq_some_iff.mp hhead
    rw [hc] at h
    obtain ⟨ys, hd, hrest⟩ := hR.exists_prefix ['"'] (by decide) h
    rw [List.singleton_append] at hd
    obtain ⟨hxs, hys⟩ | ⟨body, rest, body', rest', hxs, hys, hbody, hafter⟩ :=
      hR.closeQuote_cases hrest
    · simp only [quotedString, hc, hd, hxs, hys]
      exact .refuse hself _
    · obtain ⟨rfl, hfirst⟩ := closeQuote_eq_some_iff.mp hxs
      obtain ⟨rfl, hsecond⟩ := closeQuote_eq_some_iff.mp hys
      obtain ⟨e, he, rfl⟩ := quotedString_reads hc hfirst
      obtain ⟨f, hf, rfl⟩ := quotedString_reads hd hsecond
      rw [he, hf]
      refine .read (.inr ?_) ⟨quotedString_reaches he, quotedString_reaches hf, hafter⟩
      simpa using hbody
  · rw [quotedString_of_head?_ne hhead, quotedString_of_head?_ne (mt hquote.mpr hhead)]
    exact .refuse hself _

end Token

end StaticPages
