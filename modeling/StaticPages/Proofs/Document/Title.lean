import Mathlib.Data.List.Infix
import StaticPages.Proofs.Document.Heading

namespace StaticPages.Heading

/-- Whether a text is a name, given in lower case, with its letters in any case. -/
def Spells (name text : List Char) : Prop :=
  text.map Char.toLower = name

/-- An opening tag: `<h1` and `>`, or white space between them and, behind it, attributes. -/
inductive OpenTag : List Char → Prop
  | plain {name : List Char} (hname : Spells ['<', 'h', '1'] name) : OpenTag (name ++ ['>'])
  | attributed {name attributes : List Char} {space : Char} (hname : Spells ['<', 'h', '1'] name)
      (hspace : Text.isSpace space = true) (hattributes : '>' ∉ attributes) :
      OpenTag (name ++ space :: (attributes ++ ['>']))

/-- A closing tag: `</h1`, white space and `>`. -/
def CloseTag (tag : List Char) : Prop :=
  ∃ name spaces, Spells ['<', '/', 'h', '1'] name ∧ (∀ x ∈ spaces, Text.isSpace x = true) ∧
    tag = name ++ (spaces ++ ['>'])

/-- Whether no closing tag stands in a text. -/
def Unclosed (text : List Char) : Prop :=
  ∀ tag, CloseTag tag → ¬ tag <:+: text

/-- A heading in its parts: what opens it, its text, what closes it, and the body after it.
    One that a mark opens ends with its line, whose ending belongs to the body. -/
inductive Written : List Char → List Char → List Char → List Char → Prop
  | mark {blanks raw body : List Char} (hne : blanks ≠ [])
      (hblanks : ∀ x ∈ blanks, Text.isBlank x = true) (hraw : Text.Stops Text.isBlank raw)
      (hline : '\n' ∉ raw) (hbody : body = [] ∨ body.head? = some '\n') :
      Written ('#' :: blanks) raw [] body
  | tag {opener raw closer body : List Char} (hopener : OpenTag opener) (hraw : Unclosed raw)
      (hcloser : CloseTag closer) : Written opener raw closer body

/-- Whether a heading begins a text, white space apart: a mark and a blank, or an opening tag
    and somewhere behind it a closing one. -/
def Begins (text : List Char) : Prop :=
  ∃ space more, text = space ++ more ∧ (∀ x ∈ space, Text.isSpace x = true) ∧
    ((∃ blank rest, Text.isBlank blank = true ∧ more = '#' :: blank :: rest) ∨
      ∃ opener between closer rest, OpenTag opener ∧ CloseTag closer ∧
        more = opener ++ (between ++ (closer ++ rest)))

section Tags

variable {text name tag raw rest : List Char}

theorem spells_cons_iff {t : Char} :
    Spells (t :: name) text ↔ ∃ c cs, text = c :: cs ∧ c.toLower = t ∧ Spells name cs :=
  List.map_eq_cons_iff

theorem Spells.length_eq (h : Spells name text) : text.length = name.length := by
  rw [← h, List.length_map]

theorem startsTag_iff :
    startsTag tag text = true ↔ ∃ name rest, text = name ++ rest ∧ Spells tag name := by
  fun_induction startsTag tag text with
  | case1 text => exact iff_of_true rfl ⟨[], text, rfl, rfl⟩
  | case2 t tag =>
    refine iff_of_false nofun ?_
    rintro ⟨name, rest, hempty, hname⟩
    obtain ⟨c, cs, rfl, -⟩ := spells_cons_iff.mp hname
    cases hempty
  | case3 t tag c text ih =>
    rw [Bool.and_eq_true, beq_iff_eq, ih]
    constructor
    · rintro ⟨hc, name, rest, rfl, hname⟩
      exact ⟨c :: name, rest, rfl, spells_cons_iff.mpr ⟨c, name, rfl, hc, hname⟩⟩
    · rintro ⟨name, rest, heq, hname⟩
      obtain ⟨d, cs, rfl, hd, hcs⟩ := spells_cons_iff.mp hname
      obtain ⟨rfl, rfl⟩ := List.cons.inj heq
      exact ⟨hd, cs, rest, rfl, hcs⟩

theorem OpenTag.exists_startsTag (h : OpenTag tag) (rest : List Char) :
    startsTag ['<', 'h', '1'] (tag ++ rest) = true := by
  rw [startsTag_iff]
  cases h with
  | plain hname => exact ⟨_, _, List.append_assoc _ _ _, hname⟩
  | attributed hname => exact ⟨_, _, List.append_assoc _ _ _, hname⟩

theorem all_ne_of_not_mem (h : '>' ∉ raw) : ∀ x ∈ raw, (x != '>') = true := by
  intro x hx
  have hne : x ≠ '>' := fun heq => h (heq ▸ hx)
  simpa using hne

/-- An opening tag is recognised by what it is, whatever follows it. -/
theorem openTag?_append (h : OpenTag tag) (rest : List Char) :
    openTag? (tag ++ rest) = some tag.length := by
  have hstarts := h.exists_startsTag rest
  cases h with
  | @plain name hname =>
    have hlength : name.length = 3 := hname.length_eq
    rw [List.append_assoc] at hstarts ⊢
    rw [openTag?, if_pos hstarts, ← hlength, List.drop_left]
    simp [hlength]
  | @attributed name attributes space hname hspace hattributes =>
    have hlength : name.length = 3 := hname.length_eq
    have hne : space ≠ '>' := by
      rintro rfl
      cases hspace
    have hdrop : (name ++ space :: (attributes ++ ['>']) ++ rest).drop 3 =
        space :: (attributes ++ '>' :: rest) := by
      rw [← hlength, List.append_assoc, List.drop_left]
      simp
    have hrun : (attributes ++ '>' :: rest).takeWhile (· != '>') = attributes :=
      Text.takeWhile_append_of_stops (all_ne_of_not_mem hattributes) (Text.stops_cons.mpr rfl)
    rw [openTag?_of_ne hstarts hdrop hne, hrun, List.drop_left, if_pos ⟨hspace, rfl⟩]
    simp [hlength]
    omega

/-- What ends a run of characters of one class stands right behind it. -/
theorem exists_eq_takeWhile_append {f : Char → Bool} {x : Char}
    (h : (text.drop (text.takeWhile f).length).head? = some x) :
    ∃ more, text = text.takeWhile f ++ x :: more := by
  obtain ⟨more, hmore⟩ := List.head?_eq_some_iff.mp h
  exact ⟨more, hmore ▸ List.prefix_append_drop (List.takeWhile_prefix f)⟩

theorem exists_openTag {n : Nat} (h : openTag? text = some n) :
    ∃ opener rest, text = opener ++ rest ∧ OpenTag opener ∧ opener.length = n := by
  unfold openTag? at h
  split at h
  · next hstarts =>
    obtain ⟨name, rest, rfl, hname⟩ := startsTag_iff.mp hstarts
    have hlength : name.length = 3 := hname.length_eq
    rw [← hlength, List.drop_left] at h
    split at h
    · next rest =>
      cases h
      exact ⟨name ++ ['>'], rest, by simp, .plain hname, by simp [hlength]⟩
    · next space rest _ =>
      dsimp only at h
      split at h
      · next hfound =>
        cases h
        rw [Bool.and_eq_true, decide_eq_true_eq] at hfound
        obtain ⟨hspace, hclosed⟩ := hfound
        obtain ⟨more, hrest⟩ := exists_eq_takeWhile_append ((attributes_closed rest).mp hclosed)
        have hnot : '>' ∉ rest.takeWhile (· != '>') := by
          intro hmem
          simpa using Text.mem_takeWhile hmem
        refine ⟨_, more, ?_, .attributed hname hspace hnot, ?_⟩
        · conv => lhs; rw [hrest]
          simp
        · simp [hlength]
          omega
      · cases h
    · cases h
  · cases h

/-- A closing tag is recognised by what it is, whatever follows it. -/
theorem closeTag?_append (h : CloseTag tag) (rest : List Char) :
    closeTag? (tag ++ rest) = some tag.length := by
  obtain ⟨name, spaces, hname, hspaces, rfl⟩ := h
  have hlength : name.length = 4 := hname.length_eq
  have hstarts : startsTag ['<', '/', 'h', '1'] (name ++ (spaces ++ ['>']) ++ rest) = true :=
    startsTag_iff.mpr ⟨name, _, List.append_assoc _ _ _, hname⟩
  have hrun : (spaces ++ '>' :: rest).takeWhile Text.isSpace = spaces :=
    Text.takeWhile_append_of_stops hspaces (Text.stops_cons.mpr rfl)
  rw [closeTag?, if_pos hstarts]
  have hdrop : (name ++ (spaces ++ ['>']) ++ rest).drop 4 = spaces ++ '>' :: rest := by
    rw [← hlength, List.append_assoc, List.drop_left]
    simp
  simp only [← List.drop_drop, hdrop, hrun, List.drop_left, List.head?_cons, if_true]
  simp [hlength]
  omega

theorem exists_closeTag {n : Nat} (h : closeTag? text = some n) :
    ∃ closer rest, text = closer ++ rest ∧ CloseTag closer ∧ closer.length = n := by
  unfold closeTag? at h
  split at h
  · next hstarts =>
    obtain ⟨name, rest, rfl, hname⟩ := startsTag_iff.mp hstarts
    have hlength : name.length = 4 := hname.length_eq
    dsimp only at h
    rw [← List.drop_drop, ← hlength, List.drop_left] at h
    split at h
    · next hhead =>
      cases h
      obtain ⟨more, hrest⟩ := exists_eq_takeWhile_append hhead
      refine ⟨_, more, ?_, ⟨name, rest.takeWhile Text.isSpace, hname, fun _ => Text.mem_takeWhile,
        rfl⟩, ?_⟩
      · conv => lhs; rw [hrest]
        simp
      · simp [hlength]
        omega
    · cases h
  · cases h

theorem closeTag?_eq_none_iff :
    closeTag? text = none ↔ ∀ closer, CloseTag closer → ¬ closer <+: text := by
  constructor
  · rintro hnone closer hcloser ⟨rest, rfl⟩
    cases hnone.symm.trans (closeTag?_append hcloser rest)
  · intro hnot
    cases h : closeTag? text with
    | none => rfl
    | some n =>
      obtain ⟨closer, rest, rfl, hcloser, -⟩ := exists_closeTag h
      exact absurd ⟨rest, rfl⟩ (hnot closer hcloser)

/-- Only a small letter is the lower case of another character. -/
theorem eq_of_toLower {c t : Char} (ht : t.isLower = false) (h : c.toLower = t) : c = t := by
  unfold Char.toLower at h
  split at h
  · next hcapital =>
    subst h
    simp only [ge_iff_le, UInt32.le_iff_toNat_le] at hcapital
    change (decide ('a'.val ≤ _) && decide (_ ≤ 'z'.val)) = false at ht
    simp only [UInt32.le_iff_toNat_le, UInt32.toNat_add, Bool.and_eq_false_iff,
      decide_eq_false_iff_not] at ht
    have hA : 'A'.val.toNat = 65 := rfl
    have hZ : 'Z'.val.toNat = 90 := rfl
    have ha : 'a'.val.toNat = 97 := rfl
    have hz : 'z'.val.toNat = 122 := rfl
    have hshift : ('a'.val - 'A'.val).toNat = 32 := rfl
    omega
  · exact h

theorem OpenTag.exists_cons (h : OpenTag tag) : ∃ rest, tag = '<' :: rest := by
  cases h with
  | plain hname | attributed hname =>
    obtain ⟨first, letters, rfl, hfirst, -⟩ := spells_cons_iff.mp hname
    obtain rfl : first = '<' := eq_of_toLower rfl hfirst
    exact ⟨_, rfl⟩

/-- A closing tag holds no other one, for it does not begin again before it ends. -/
theorem CloseTag.exists_cons (h : CloseTag tag) :
    ∃ rest, tag = '<' :: rest ∧ '<' ∉ rest := by
  obtain ⟨name, spaces, hname, hspaces, rfl⟩ := h
  obtain ⟨first, letters, rfl, hfirst, hletters⟩ := spells_cons_iff.mp hname
  obtain rfl : first = '<' := eq_of_toLower rfl hfirst
  refine ⟨letters ++ (spaces ++ ['>']), rfl, ?_⟩
  have hname : '<' ∉ letters := by
    intro hmem
    have hlower := List.mem_map_of_mem (f := Char.toLower) hmem
    rw [hletters] at hlower
    exact absurd hlower (by decide)
  have hspace : '<' ∉ spaces := fun hmem => nomatch hspaces _ hmem
  simp [hname, hspace]

theorem CloseTag.prefix_of_prefix {closer : List Char} (htag : CloseTag tag)
    (hcloser : CloseTag closer) (hne : raw ≠ []) (h : tag <+: raw ++ (closer ++ rest)) :
    tag <+: raw := by
  obtain ⟨more, hmore⟩ := h
  rcases List.append_eq_append_iff.mp hmore with ⟨between, hraw, -⟩ | ⟨excess, rfl, hexcess⟩
  · exact ⟨between, hraw.symm⟩
  · cases excess with
    | nil => exact ⟨[], by simp⟩
    | cons x excess =>
      -- The closing tag that follows would begin within this one.
      obtain ⟨first, others, rfl⟩ := List.exists_cons_of_ne_nil hne
      obtain ⟨inner, heq, hinner⟩ := htag.exists_cons
      obtain ⟨_, rfl, -⟩ := hcloser.exists_cons
      obtain ⟨-, rfl⟩ := List.cons.inj heq
      obtain ⟨rfl, -⟩ := List.cons.inj hexcess
      exact absurd (List.mem_append_right others List.mem_cons_self) hinner

theorem unclosed_nil : Unclosed [] := by
  rintro tag htag hinfix
  obtain ⟨rest, rfl, -⟩ := htag.exists_cons
  cases List.infix_nil.mp hinfix

theorem Unclosed.tail {x : Char} (h : Unclosed (x :: text)) : Unclosed text :=
  fun tag htag hinfix => h tag htag (List.infix_cons hinfix)

theorem exists_untilCloseTag {n : Nat} (h : untilCloseTag text = some (raw, n)) :
    ∃ closer body, text = raw ++ (closer ++ body) ∧ CloseTag closer ∧ closer.length = n ∧
      Unclosed raw := by
  fun_induction untilCloseTag text generalizing raw with
  | case1 => cases h
  | case2 x rest n hclose =>
    cases h
    obtain ⟨closer, body, htext, hcloser, hlength⟩ := exists_closeTag hclose
    exact ⟨closer, body, htext, hcloser, hlength, unclosed_nil⟩
  | case3 x rest hclose ih =>
    obtain ⟨⟨before, m⟩, hbefore, heq⟩ := Option.map_eq_some_iff.mp h
    cases heq
    obtain ⟨closer, body, rfl, hcloser, hlength, hunclosed⟩ := ih hbefore
    refine ⟨closer, body, rfl, hcloser, hlength, fun tag htag hinfix => ?_⟩
    rcases List.infix_cons_iff.mp hinfix with hfront | hinfix
    · exact closeTag?_eq_none_iff.mp hclose tag htag (hfront.trans (List.prefix_append _ _))
    · exact hunclosed tag htag hinfix

theorem untilCloseTag_append {closer : List Char} (hraw : Unclosed raw)
    (hcloser : CloseTag closer) (body : List Char) :
    untilCloseTag (raw ++ (closer ++ body)) = some (raw, closer.length) := by
  induction raw with
  | nil =>
    have hclose := closeTag?_append hcloser body
    obtain ⟨rest, rfl, -⟩ := hcloser.exists_cons
    rw [List.nil_append, List.cons_append, untilCloseTag, ← List.cons_append, hclose]
  | cons x raw ih =>
    have hclose : closeTag? (x :: (raw ++ (closer ++ body))) = none := by
      rw [closeTag?_eq_none_iff]
      intro tag htag hfront
      exact hraw tag htag (htag.prefix_of_prefix hcloser (List.cons_ne_nil x raw) hfront).isInfix
    rw [List.cons_append, untilCloseTag, hclose, ih hraw.tail]
    rfl

theorem untilCloseTag_eq_none_iff : untilCloseTag text = none ↔ Unclosed text := by
  constructor
  · intro h
    fun_induction untilCloseTag text with
    | case1 => exact unclosed_nil
    | case2 => cases h
    | case3 x rest hclose ih =>
      intro tag htag hinfix
      rcases List.infix_cons_iff.mp hinfix with hfront | hinfix
      · exact closeTag?_eq_none_iff.mp hclose tag htag hfront
      · exact ih (Option.map_eq_none_iff.mp h) tag htag hinfix
  · intro hunclosed
    cases h : untilCloseTag text with
    | none => rfl
    | some found =>
      obtain ⟨closer, body, rfl, hcloser, -⟩ := exists_untilCloseTag h
      exact absurd ⟨found.1, body, List.append_assoc _ _ _⟩ (hunclosed closer hcloser)

end Tags

section Parse

variable {c d : Cursor} {space opener raw closer body : List Char} {title : String}

theorem atMark_iff :
    atMark c = true ↔ ∃ blank rest, Text.isBlank blank = true ∧ c.ahead = '#' :: blank :: rest := by
  obtain ⟨ahead, position⟩ := c
  rcases ahead with _ | ⟨x, _ | ⟨y, rest⟩⟩
  · simp [atMark, Cursor.head?]
  · simp [atMark, Cursor.head?, Cursor.drop]
  · simp [atMark, Cursor.head?, Cursor.drop, and_comm]

theorem stops_of_lineEnd {f : Char → Bool} (hf : f '\n' = false)
    (h : body = [] ∨ body.head? = some '\n') : Text.Stops f body := by
  rcases h with rfl | hfeed
  · exact Text.stops_nil f
  · intro x hx
    cases hfeed.symm.trans hx
    exact hf

/-- Reading a heading takes all of it, and leaves the body. -/
theorem parse_reads (hahead : c.ahead = space ++ (opener ++ (raw ++ (closer ++ body))))
    (hspace : ∀ x ∈ space, Text.isSpace x = true) (h : Written opener raw closer body) :
    Parser.Reads parse c (Text.trim (String.ofList raw)) body := by
  cases h with
  | @mark blanks raw body hne hblanks hraw hline hbody =>
    obtain ⟨blank, blanks, rfl⟩ := List.exists_cons_of_ne_nil hne
    have hstart : c.skipSpace.ahead = '#' :: (blank :: blanks ++ (raw ++ body)) :=
      Cursor.ahead_skipWhile hahead hspace (Text.stops_cons.mpr rfl)
    have hmark : atMark c.skipSpace = true :=
      atMark_iff.mpr ⟨blank, _, hblanks blank List.mem_cons_self, hstart⟩
    have hinner : (c.skipSpace.drop 1).skipBlanks.ahead = raw ++ body :=
      Cursor.ahead_skipWhile (congrArg (List.drop 1) hstart) hblanks (hraw.append (stops_of_lineEnd rfl hbody))
    have hall : ∀ x ∈ raw, (x != '\n') = true := by
      intro x hx
      have hne : x ≠ '\n' := fun heq => hline (heq ▸ hx)
      simpa using hne
    have hends : Text.Stops (· != '\n') body := stops_of_lineEnd rfl hbody
    refine ⟨_, ?_, Cursor.ahead_skipWhile hinner hall hends⟩
    simp only [atMark] at hmark
    simp only [parse, hmark, if_true, Cursor.takeWhile, hinner,
      Text.takeWhile_append_of_stops hall hends]
  | tag hopener hraw hcloser =>
    obtain ⟨letters, heq⟩ := hopener.exists_cons
    have hstops : Text.Stops Text.isSpace (opener ++ (raw ++ (closer ++ body))) := by
      rw [heq, List.cons_append]
      exact Text.stops_cons.mpr rfl
    have hstart : c.skipSpace.ahead = opener ++ (raw ++ (closer ++ body)) :=
      Cursor.ahead_skipWhile hahead hspace hstops
    have hmark : atMark c.skipSpace = false := by
      rw [Bool.eq_false_iff, ne_eq, atMark_iff, hstart, heq]
      rintro ⟨blank, rest, -, hmark⟩
      cases hmark
    have hinner : (c.skipSpace.drop opener.length).ahead = raw ++ (closer ++ body) := by
      rw [Cursor.drop, hstart, List.drop_left]
    refine ⟨(c.skipSpace.drop opener.length).drop (raw.length + closer.length), ?_, ?_⟩
    · simp only [atMark] at hmark
      simp only [parse, hmark, Bool.false_eq_true, if_false, hstart, openTag?_append hopener]
      simp only [hinner, untilCloseTag_append hraw hcloser]
    · rw [Cursor.drop, hinner, List.drop_length_add_append, List.drop_left]

/-- A text up to the end of its first line, and what is left from there. -/
theorem exists_lineEnd (text : List Char) :
    ∃ line body, text = line ++ body ∧ '\n' ∉ line ∧ (body = [] ∨ body.head? = some '\n') := by
  obtain ⟨line, rest, hnot, rfl | ⟨rfl, -⟩⟩ := Token.exists_line text
  · exact ⟨line, '\n' :: rest, rfl, hnot, .inr rfl⟩
  · exact ⟨text, [], (List.append_nil text).symm, hnot, .inl rfl⟩

theorem begins_of_parse (h : parse c = .ok (title, d)) : Begins c.ahead := by
  obtain ⟨space, hahead, hspace⟩ := Cursor.exists_skipWhile Text.isSpace c
  refine ⟨space, c.skipSpace.ahead, hahead, hspace, ?_⟩
  unfold parse at h
  dsimp only at h
  split at h
  · next hmark =>
    exact .inl (atMark_iff.mp hmark)
  · split at h
    · cases h
    · next n hopen =>
      obtain ⟨opener, rest, hstart, hopener, hlength⟩ := exists_openTag hopen
      split at h
      · cases h
      · next raw m hclose =>
        rw [Cursor.drop, hstart, ← hlength, List.drop_left] at hclose
        obtain ⟨closer, body, rfl, hcloser, -⟩ := exists_untilCloseTag hclose
        exact .inr ⟨opener, raw, closer, body, hopener, hcloser, hstart⟩

/-- What a heading begins falls into the parts of one. -/
theorem exists_written {text : List Char} (h : Begins text) :
    ∃ space opener raw closer body, text = space ++ (opener ++ (raw ++ (closer ++ body))) ∧
      (∀ x ∈ space, Text.isSpace x = true) ∧ Written opener raw closer body := by
  obtain ⟨space, more, rfl, hspace, ⟨blank, rest, hblank, rfl⟩ |
    ⟨opener, between, closer, rest, hopener, hcloser, rfl⟩⟩ := h
  · obtain ⟨raw, body, hline, hnot, hbody⟩ := exists_lineEnd (rest.dropWhile Text.isBlank)
    have hraw : Text.Stops Text.isBlank raw := by
      have hstops := Text.stops_dropWhile Text.isBlank rest
      rw [hline] at hstops
      cases raw with
      | nil => exact Text.stops_nil _
      | cons x raw => exact Text.stops_cons.mpr (Text.stops_cons.mp hstops)
    refine ⟨space, '#' :: blank :: rest.takeWhile Text.isBlank, raw, [], body, ?_, hspace,
      .mark (List.cons_ne_nil _ _) ?_ hraw hnot hbody⟩
    · simp [← hline]
    · exact List.forall_mem_cons.mpr ⟨hblank, fun _ => Text.mem_takeWhile⟩
  · cases huntil : untilCloseTag (between ++ (closer ++ rest)) with
    | none =>
      exact absurd ⟨between, rest, List.append_assoc _ _ _⟩
        (untilCloseTag_eq_none_iff.mp huntil closer hcloser)
    | some found =>
      obtain ⟨first, body, htext, hfirst, -, hraw⟩ := exists_untilCloseTag huntil
      exact ⟨space, opener, found.1, first, body, by rw [htext], hspace, .tag hopener hraw hfirst⟩

/-- What is read as a heading is one, and what is left is its body. -/
theorem parse_eq_ok_iff :
    parse c = .ok (title, d) ↔ c.Reaches d ∧ ∃ space opener raw closer,
      c.ahead = space ++ (opener ++ (raw ++ (closer ++ d.ahead))) ∧
        (∀ x ∈ space, Text.isSpace x = true) ∧ Written opener raw closer d.ahead ∧
        title = Text.trim (String.ofList raw) := by
  constructor
  · intro h
    obtain ⟨space, opener, raw, closer, body, hahead, hspace, hwritten⟩ :=
      exists_written (begins_of_parse h)
    obtain ⟨e, he, rfl⟩ := parse_reads hahead hspace hwritten
    obtain ⟨rfl, rfl⟩ := Prod.mk.inj (Except.ok.inj (h.symm.trans he))
    exact ⟨parse_reaches h, space, opener, raw, closer, hahead, hspace, hwritten, rfl⟩
  · rintro ⟨hreaches, space, opener, raw, closer, hahead, hspace, hwritten, rfl⟩
    obtain ⟨e, he, hrest⟩ := parse_reads hahead hspace hwritten
    rw [he, (parse_reaches he).eq_of_ahead hreaches hrest]

theorem parse_succeeds_iff : (∃ title d, parse c = .ok (title, d)) ↔ Begins c.ahead := by
  constructor
  · rintro ⟨title, d, h⟩
    exact begins_of_parse h
  · intro h
    obtain ⟨space, opener, raw, closer, body, hahead, hspace, hwritten⟩ := exists_written h
    obtain ⟨d, hd, -⟩ := parse_reads hahead hspace hwritten
    exact ⟨_, d, hd⟩

theorem kind_of_parse {f : Failure} (h : parse c = .error f) : f.kind = some .missingTitle := by
  unfold parse at h
  dsimp only at h
  split at h
  · cases h
  · split at h
    · cases h
      rfl
    · split at h
      · cases h
        rfl
      · cases h

end Parse

end StaticPages.Heading
