import StaticPages.Document.Heading
import StaticPages.Proofs.Source.Agreement

namespace StaticPages

variable {R : List Char → List Char → Prop} {xs ys : List Char}

namespace Lexical

variable (hR : Lexical R)

include hR

/-- A run of characters that takes line endings in whole or not at all ends before the
    same character in related texts. -/
theorem afterRun {f : Char → Bool} (hf : f '\r' = f '\n') {x : Char} (hx : Unbroken [x])
    (h : R xs ys) :
    ((xs.drop (xs.takeWhile f).length).head? = some x ↔
        (ys.drop (ys.takeWhile f).length).head? = some x) ∧
      ((xs.drop (xs.takeWhile f).length).head? = some x →
        R (xs.drop ((xs.takeWhile f).length + 1)) (ys.drop ((ys.takeWhile f).length + 1))) := by
  have hdrop (cs : List Char) : cs.drop (cs.takeWhile f).length = cs.dropWhile f := by
    have hparts : (cs.takeWhile f ++ cs.dropWhile f).drop (cs.takeWhile f).length =
        cs.dropWhile f := List.drop_left
    rwa [List.takeWhile_append_dropWhile] at hparts
  have hrun := hR.dropWhile hf h
  simp only [← List.drop_drop, hdrop]
  refine ⟨hR.head?_eq_some_iff hrun hx.cons.1.1 hx.cons.1.2, fun hhead => ?_⟩
  obtain ⟨rest, hrest⟩ := List.head?_eq_some_iff.mp hhead
  rw [hrest] at hrun ⊢
  obtain ⟨rest', hys, hmore⟩ := hR.exists_prefix [x] hx hrun
  rw [hys]
  exact hmore

end Lexical

namespace Heading

/-- Whether two titles are the same, or come from related texts. -/
def SameTitle (R : List Char → List Char → Prop) (a b : String) : Prop :=
  a = b ∨ ∃ raw raw', R raw raw' ∧ a = Text.trim (String.ofList raw) ∧
    b = Text.trim (String.ofList raw')

/-- The line's carriage return is trimmed away with the white space around a title. -/
theorem trimChars_return (line : List Char) :
    Text.trimChars (line ++ ['\r']) = Text.trimChars line :=
  Text.trimChars_append (by simp [Text.isSpace])

variable (hR : Lexical R)

include hR

theorem startsTag_cases (tag : List Char) (htag : Unbroken tag) (h : R xs ys) :
    (startsTag tag xs = false ∧ startsTag tag ys = false) ∨
      startsTag tag xs = true ∧ startsTag tag ys = true ∧
        R (xs.drop tag.length) (ys.drop tag.length) := by
  induction tag generalizing xs ys with
  | nil => exact .inr ⟨by simp [startsTag], by simp [startsTag], h⟩
  | cons t tag ih =>
    obtain ⟨ht, htag⟩ := htag.cons
    cases hR.step h with
    | nil => exact .inl ⟨rfl, rfl⟩
    | @same x _ _ hrest =>
      simp only [startsTag, List.length_cons, List.drop_succ_cons]
      cases x.toLower == t with
      | true => simpa only [Bool.true_and] using ih htag hrest
      | false => exact .inl ⟨rfl, rfl⟩
    | ending =>
      have hfeed : ('\n'.toLower == t) = false := beq_eq_false_iff_ne.mpr (Ne.symm ht.1)
      have hreturn : ('\r'.toLower == t) = false := beq_eq_false_iff_ne.mpr (Ne.symm ht.2)
      exact .inl ⟨by rw [startsTag, hfeed]; rfl, by rw [startsTag, hreturn]; rfl⟩

omit hR in
theorem attributes_closed (cs : List Char) :
    (cs.takeWhile (· != '>')).length < cs.length ↔
      (cs.drop (cs.takeWhile (· != '>')).length).head? = some '>' := by
  induction cs with
  | nil => simp
  | cons x cs ih =>
    by_cases hx : x = '>'
    · simp [hx]
    · simpa [hx] using ih

omit hR in
theorem openTag?_of_ne {text rest : List Char} {x : Char}
    (htag : startsTag ['<', 'h', '1'] text = true) (hrest : text.drop 3 = x :: rest)
    (hx : x ≠ '>') :
    openTag? text =
      if Text.isSpace x = true ∧ (rest.drop (rest.takeWhile (· != '>')).length).head? = some '>'
        then some ((rest.takeWhile (· != '>')).length + 5) else none := by
  rw [openTag?, if_pos htag, hrest]
  simp only [← attributes_closed, Bool.and_eq_true, decide_eq_true_eq]

theorem openTag?_cases (h : R xs ys) :
    (openTag? xs = none ∧ openTag? ys = none) ∨
      ∃ m n, openTag? xs = some m ∧ openTag? ys = some n ∧ R (xs.drop m) (ys.drop n) := by
  obtain ⟨hxs, hys⟩ | ⟨hxs, hys, htag⟩ := startsTag_cases hR ['<', 'h', '1'] (by decide) h
  · exact .inl ⟨by rw [openTag?, hxs]; rfl, by rw [openTag?, hys]; rfl⟩
  · replace htag : R (xs.drop 3) (ys.drop 3) := htag
    have hdrop (cs : List Char) (n : Nat) : cs.drop (n + 3) = (cs.drop 3).drop n := by
      rw [List.drop_drop, Nat.add_comm]
    generalize hus : xs.drop 3 = us at htag
    generalize hvs : ys.drop 3 = vs at htag
    cases hR.step htag with
    | nil => exact .inl ⟨by rw [openTag?, if_pos hxs, hus], by rw [openTag?, if_pos hys, hvs]⟩
    | @same x us vs hrest =>
      by_cases hx : x = '>'
      · subst hx
        exact .inr ⟨4, 4, by rw [openTag?, if_pos hxs, hus]; rfl,
          by rw [openTag?, if_pos hys, hvs]; rfl, by rwa [hdrop xs 1, hdrop ys 1, hus, hvs]⟩
      · obtain ⟨hclose, hmore⟩ := hR.afterRun (f := (· != '>')) rfl (x := '>') (by decide) hrest
        rw [openTag?_of_ne hxs hus hx, openTag?_of_ne hys hvs hx]
        by_cases hfound : Text.isSpace x = true ∧
          (us.drop (us.takeWhile (· != '>')).length).head? = some '>'
        · rw [if_pos hfound, if_pos ⟨hfound.1, hclose.mp hfound.2⟩]
          refine .inr ⟨_, _, rfl, rfl, ?_⟩
          rw [hdrop xs (_ + 2), hdrop ys (_ + 2), hus, hvs]
          exact hmore hfound.2
        · exact .inl ⟨if_neg hfound, if_neg fun h => hfound ⟨h.1, hclose.mpr h.2⟩⟩
    | @ending us vs hrest =>
      obtain ⟨hclose, hmore⟩ := hR.afterRun (f := (· != '>')) rfl (x := '>') (by decide) hrest
      have hfeed : ('\n' :: vs).takeWhile (· != '>') = '\n' :: vs.takeWhile (· != '>') := rfl
      rw [openTag?_of_ne hxs hus (by decide), openTag?_of_ne hys hvs (by decide), hfeed,
        List.length_cons, List.drop_succ_cons]
      by_cases hfound : (us.drop (us.takeWhile (· != '>')).length).head? = some '>'
      · rw [if_pos ⟨rfl, hfound⟩, if_pos ⟨rfl, hclose.mp hfound⟩]
        refine .inr ⟨_, _, rfl, rfl, ?_⟩
        rw [hdrop xs (_ + 2), hdrop ys (_ + 1 + 2), hus, hvs]
        exact hmore hfound
      · exact .inl ⟨if_neg fun h => hfound h.2, if_neg fun h => hfound (hclose.mpr h.2)⟩

theorem closeTag?_cases (h : R xs ys) :
    (closeTag? xs = none ∧ closeTag? ys = none) ∨
      ∃ m n, closeTag? xs = some m ∧ closeTag? ys = some n ∧ R (xs.drop m) (ys.drop n) := by
  obtain ⟨hxs, hys⟩ | ⟨hxs, hys, htag⟩ :=
    startsTag_cases hR ['<', '/', 'h', '1'] (by decide) h
  · exact .inl ⟨by rw [closeTag?, hxs]; rfl, by rw [closeTag?, hys]; rfl⟩
  · replace htag : R (xs.drop 4) (ys.drop 4) := htag
    obtain ⟨hclose, hrest⟩ := hR.afterRun (f := Text.isSpace) rfl (x := '>') (by decide) htag
    simp only [closeTag?, hxs, hys, if_true, ← List.drop_drop]
    by_cases hhead : ((xs.drop 4).drop ((xs.drop 4).takeWhile Text.isSpace).length).head? = some '>'
    · rw [if_pos hhead, if_pos (hclose.mp hhead)]
      refine .inr ⟨_, _, rfl, rfl, ?_⟩
      have hsum (n : Nat) : 4 + (n + 1) = n + 5 := by omega
      simpa only [List.drop_drop, hsum] using hrest hhead
    · rw [if_neg hhead, if_neg (mt hclose.mpr hhead)]
      exact .inl ⟨rfl, rfl⟩

/-- Related texts have the same title before a closing tag, if there is one. -/
theorem untilCloseTag_cases (h : R xs ys) :
    (untilCloseTag xs = none ∧ untilCloseTag ys = none) ∨
      ∃ raw m raw' n rest rest', untilCloseTag xs = some (raw, m) ∧
        untilCloseTag ys = some (raw', n) ∧ xs = raw ++ rest ∧ ys = raw' ++ rest' ∧
        R rest rest' ∧ R (rest.drop m) (rest'.drop n) := by
  fun_induction untilCloseTag xs generalizing ys with
  | case1 =>
    cases hR.step h with
    | nil => exact .inl ⟨rfl, rfl⟩
  | case2 x rest m hclose =>
    obtain ⟨hnone, -⟩ | ⟨m', n, hxs, hys, hafter⟩ := closeTag?_cases hR h
    · cases hclose.symm.trans hnone
    · cases hclose.symm.trans hxs
      cases ys with
      | nil => cases hys
      | cons y rest' =>
        exact .inr ⟨[], m, [], n, _, _, rfl, by rw [untilCloseTag, hys], rfl, rfl, h, hafter⟩
  | case3 x rest hclose ih =>
    obtain ⟨-, hys⟩ | ⟨m, n, hxs, -⟩ := closeTag?_cases hR h
    · cases hR.step h with
      | @same _ _ ys hrest =>
        obtain ⟨hx, hy⟩ | ⟨raw, m, raw', n, before, before', hx, hy, rfl, rfl, hsplit⟩ := ih hrest
        · exact .inl ⟨by rw [hx]; rfl, by rw [untilCloseTag, hys, hy]; rfl⟩
        · exact .inr ⟨x :: raw, m, x :: raw', n, before, before', by rw [hx]; rfl,
            by rw [untilCloseTag, hys, hy]; rfl, rfl, rfl, hsplit⟩
      | @ending _ ys hrest =>
        have hfeed : closeTag? ('\n' :: ys) = none := rfl
        obtain ⟨hx, hy⟩ | ⟨raw, m, raw', n, before, before', hx, hy, rfl, rfl, hsplit⟩ := ih hrest
        · refine .inl ⟨by rw [hx]; rfl, ?_⟩
          rw [untilCloseTag, hys, untilCloseTag, hfeed, hy]
          rfl
        · refine .inr ⟨'\n' :: raw, m, '\r' :: '\n' :: raw', n, before, before', by rw [hx]; rfl, ?_,
            rfl, rfl, hsplit⟩
          rw [untilCloseTag, hys, untilCloseTag, hfeed, hy]
          rfl
    · cases hclose.symm.trans hxs

theorem isBlank_head?_eq (h : R xs ys) :
    xs.head?.any Text.isBlank = ys.head?.any Text.isBlank := by
  cases hR.step h <;> rfl

/-- What is left behind a title's line begins with the line feed in both texts. -/
theorem lineEnd_step (h : R xs ys) :
    Step R (xs.dropWhile (· != '\n')) (ys.dropWhile (· != '\n')) := by
  induction xs generalizing ys with
  | nil =>
    cases hR.step h with
    | nil => exact .nil
  | cons x xs ih =>
    cases hR.step h with
    | same hrest =>
      simp only [List.dropWhile_cons]
      split
      · exact ih hrest
      · exact .same hrest
    | ending hrest => exact .same hrest

theorem lineTitle_eq (h : R xs ys) :
    Text.trim (String.ofList (ys.takeWhile (· != '\n'))) =
      Text.trim (String.ofList (xs.takeWhile (· != '\n'))) := by
  simp only [Text.trim, String.toList_ofList]
  rcases hR.line_cases h with hline | hline
  · rw [hline]
  · rw [hline, trimChars_return]

/-- Whether a cursor stands at the mark of a heading and a blank after it. -/
def atMark (c : Cursor) : Bool :=
  c.head? = some '#' && (c.drop 1).head?.any Text.isBlank

theorem atMark_cases {c d : Cursor} (h : R c.ahead d.ahead) :
    (atMark c = false ∧ atMark d = false) ∨
      atMark c = true ∧ atMark d = true ∧ c.Abreast R d (c.drop 1) (d.drop 1) := by
  have hmark : c.head? = some '#' ↔ d.head? = some '#' :=
    hR.head?_eq_some_iff h (by decide) (by decide)
  unfold atMark
  by_cases hhead : c.head? = some '#'
  · obtain ⟨xs, hxs⟩ := List.head?_eq_some_iff.mp hhead
    have hrest := h
    rw [hxs] at hrest
    obtain ⟨ys, hys, hrest⟩ := hR.exists_prefix ['#'] (by decide) hrest
    have hplaces : c.Abreast R d (c.drop 1) (d.drop 1) := .drop (by rw [hxs, hys]; exact hrest)
    have hblank : (c.drop 1).head?.any Text.isBlank = (d.drop 1).head?.any Text.isBlank :=
      isBlank_head?_eq hR hplaces.ahead
    simp only [hhead, hmark.mp hhead, hblank, decide_true, Bool.true_and]
    cases (d.drop 1).head?.any Text.isBlank with
    | false => exact .inl ⟨rfl, rfl⟩
    | true => exact .inr ⟨rfl, rfl, hplaces⟩
  · have hother := mt hmark.mpr hhead
    exact .inl ⟨by simp only [hhead, decide_false, Bool.false_and],
      by simp only [hother, decide_false, Bool.false_and]⟩

/-- Related texts have the same heading or lack it for the same reason. -/
theorem parse_agree {c d : Cursor} (h : R c.ahead d.ahead) :
    Agree (Step R) (SameTitle R) c d (parse c) (parse d) := by
  have hstart := Cursor.abreast_skipSpace hR h
  unfold parse
  obtain ⟨hc, hd⟩ | ⟨hc, hd, hmark⟩ := atMark_cases hR hstart.ahead
  · simp only [atMark] at hc hd
    simp only [hc, hd, Bool.false_eq_true, if_false]
    obtain ⟨hx, hy⟩ | ⟨m, n, hx, hy, hinner⟩ := openTag?_cases hR hstart.ahead
    · simp only [hx, hy]
      exact .refuseAs (hstart.step hR) _ _
    · have hplaces : c.Abreast R d (c.skipSpace.drop m) (d.skipSpace.drop n) :=
        hstart.trans (.drop hinner)
      simp only [hx, hy]
      obtain ⟨hx, hy⟩ | ⟨raw, m', raw', n', rest, rest', hx, hy, hxs, hys, hsplit, hafter⟩ :=
        untilCloseTag_cases hR hplaces.ahead
      · simp only [hx, hy]
        exact .refuseAs (hplaces.step hR) _ _
      · simp only [hx, hy]
        have htitle : R raw raw' := hR.front (by rw [← hxs, ← hys]; exact hplaces.ahead) hsplit
        have hbody : (c.skipSpace.drop m).Abreast R (d.skipSpace.drop n)
            ((c.skipSpace.drop m).drop (raw.length + m'))
            ((d.skipSpace.drop n).drop (raw'.length + n')) := by
          refine .drop ?_
          rw [hxs, hys]
          simpa only [List.drop_length_add_append] using hafter
        exact .read (.inr ⟨raw, raw', htitle, rfl, rfl⟩) ((hplaces.trans hbody).step hR)
  · simp only [atMark] at hc hd
    have hblanks := (hstart.trans hmark).trans (Cursor.abreast_skipBlanks hR hmark.ahead)
    simp only [hc, hd, if_true, Cursor.takeWhile]
    refine .read (.inl (lineTitle_eq hR hblanks.ahead).symm) ?_
    exact ⟨hblanks.left.trans (Cursor.reaches_skipWhile _ _),
      hblanks.right.trans (Cursor.reaches_skipWhile _ _), lineEnd_step hR hblanks.ahead⟩

end Heading

end StaticPages
