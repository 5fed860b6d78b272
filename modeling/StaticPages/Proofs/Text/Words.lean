import StaticPages.Proofs.Text.Space
import StaticPages.Proofs.Text.Split
import StaticPages.Proofs.Unicode.Category
import StaticPages.Text.Words

namespace StaticPages.Text

theorem split_space_of_ne {c : Char} (h : c ≠ ' ') (rest : List Char) :
    split [' '] (c :: rest) = extend c (split [' '] rest) := by
  rw [split]
  simp [List.isPrefixOf, Ne.symm h]

theorem split_space (rest : List Char) : split [' '] (' ' :: rest) = [] :: split [' '] rest := by
  rw [split]
  simp [List.isPrefixOf]

theorem ne_space_of_isWordChar {c : Char} (h : isWordChar c = true) : c ≠ ' ' := by
  rintro rfl
  exact absurd h (by decide +kernel)

/-- Behind the second character of a place where a word begins, no other word begins: an
    upper-case letter is neither a lower-case letter nor a number. -/
theorem startsWord_of_isUpper {b : Char} (h : Unicode.isUpper b = true) (c : Char) :
    startsWord b c = false := by
  rw [startsWord, Unicode.isLower_of_isUpper h, Unicode.isNumber_of_isUpper h]
  rfl

theorem spaceWords_of_isUpper {b : Char} (h : Unicode.isUpper b = true) (rest : List Char) :
    spaceWords (b :: rest) = b :: spaceWords rest := by
  cases rest with
  | nil => rfl
  | cons c rest => rw [spaceWords, startsWord_of_isUpper h]; rfl

/-- No place is missed although both characters of a place are passed over. -/
theorem split_spaceWords_cons {a : Char} (ha : isWordChar a = true) (b : Char) (rest : List Char) :
    split [' '] (spaceWords (a :: b :: rest)) =
      if startsWord a b then [a] :: split [' '] (spaceWords (b :: rest))
      else extend a (split [' '] (spaceWords (b :: rest))) := by
  have ha' := ne_space_of_isWordChar ha
  rw [spaceWords]
  split
  · next hstarts =>
    have hupper : Unicode.isUpper b = true := (Bool.and_eq_true_iff.mp hstarts).2
    rw [split_space_of_ne ha', split_space, spaceWords_of_isUpper hupper]
    rfl
  · rw [split_space_of_ne ha']

theorem extend_append (c : Char) {pieces : List (List Char)} (h : pieces ≠ [])
    (others : List (List Char)) : extend c (pieces ++ others) = extend c pieces ++ others := by
  cases pieces with
  | nil => exact absurd rfl h
  | cons => rfl

theorem exists_runs_cons {c : Char} (h : isWordChar c = true) (rest : List Char) :
    ∃ run others, runs (c :: rest) = (c :: run) :: others := by
  rw [runs, if_pos h]
  split
  · cases hruns : runs rest with
    | nil => exact ⟨[], [], rfl⟩
    | cons run others => exact ⟨run, others, rfl⟩
  · exact ⟨[], runs rest, rfl⟩

@[simp] theorem words_nil : words [] = [] := rfl

theorem words_of_not {c : Char} (h : isWordChar c = false) (rest : List Char) :
    words (c :: rest) = words rest := by
  rw [words, runs, if_neg (Bool.eq_false_iff.mp h)]
  rfl

/-- A run of one character is a word. -/
theorem words_of_stops {c : Char} (h : isWordChar c = true) {rest : List Char}
    (hrest : Stops isWordChar rest) : words (c :: rest) = [c] :: words rest := by
  have hend : rest.head?.any isWordChar = false := by
    cases rest <;> simp_all
  have hword : split [' '] (spaceWords [c]) = [[c]] := by
    rw [spaceWords, split_space_of_ne (ne_space_of_isWordChar h), split]
    · rfl
    · simp
  rw [words, runs, if_pos h, hend]
  simp only [Bool.false_eq_true, if_false, List.flatMap_cons, hword]
  rfl

/-- Two characters of a run are in one word unless a new word begins between them. -/
theorem words_cons_cons {a b : Char} (ha : isWordChar a = true) (hb : isWordChar b = true)
    (rest : List Char) :
    words (a :: b :: rest) =
      if startsWord a b then [a] :: words (b :: rest) else extend a (words (b :: rest)) := by
  obtain ⟨run, others, hruns⟩ := exists_runs_cons hb rest
  have hlonger : runs (a :: b :: rest) = (a :: b :: run) :: others := by
    rw [runs, if_pos ha, hruns]
    simp [hb, extend]
  have hne := split_ne_nil [' '] (spaceWords (b :: run))
  simp only [words, hruns, hlonger, List.flatMap_cons, split_spaceWords_cons ha]
  split
  · rfl
  · rw [extend_append a hne]

theorem words_ne_nil {c : Char} (h : isWordChar c = true) (rest : List Char) :
    words (c :: rest) ≠ [] := by
  obtain ⟨run, others, hruns⟩ := exists_runs_cons h rest
  rw [words, hruns, List.flatMap_cons]
  exact List.append_ne_nil_of_left_ne_nil (split_ne_nil _ _) _

/-- A character of a word either makes a word of its own before those of the rest or goes
    before the first of them. -/
theorem words_cons_cases {c : Char} (h : isWordChar c = true) (rest : List Char) :
    words (c :: rest) = [c] :: words rest ∨
      words rest ≠ [] ∧ words (c :: rest) = extend c (words rest) := by
  cases rest with
  | nil => exact .inl (words_of_stops h (stops_nil _))
  | cons d rest =>
    cases hd : isWordChar d with
    | false => exact .inl (words_of_stops h (stops_cons.mpr hd))
    | true =>
      rw [words_cons_cons h hd]
      split
      · exact .inl rfl
      · exact .inr ⟨words_ne_nil hd rest, rfl⟩

/-- Whether some words are cut behind some characters: the words up to there hold just these. -/
def IsCut (words : List (List Char)) (front : List Char) : Prop :=
  ∃ before after, words = before ++ after ∧ before.flatten = front

theorem isCut_singleton_cons {c : Char} {words : List (List Char)} {front : List Char} :
    IsCut ([c] :: words) (c :: front) ↔ IsCut words front := by
  constructor
  · rintro ⟨before, after, hsplit, hfront⟩
    cases before with
    | nil => cases hfront
    | cons word before =>
      obtain ⟨rfl, rfl⟩ := List.cons.inj hsplit
      exact ⟨before, after, rfl, (List.cons.inj hfront).2⟩
  · rintro ⟨before, after, rfl, rfl⟩
    exact ⟨[c] :: before, after, rfl, rfl⟩

theorem isCut_extend {c : Char} {words : List (List Char)} {front : List Char} (hne : words ≠ [])
    (hfront : front ≠ []) : IsCut (extend c words) (c :: front) ↔ IsCut words front := by
  cases words with
  | nil => exact absurd rfl hne
  | cons word words =>
    constructor
    · rintro ⟨before, after, hsplit, hflatten⟩
      cases before with
      | nil => cases hflatten
      | cons first before =>
        obtain ⟨rfl, rfl⟩ := List.cons.inj hsplit
        exact ⟨word :: before, after, rfl, (List.cons.inj hflatten).2⟩
    · rintro ⟨before, after, hsplit, rfl⟩
      cases before with
      | nil => exact absurd rfl hfront
      | cons first before =>
        obtain ⟨rfl, rfl⟩ := List.cons.inj hsplit
        exact ⟨(c :: word) :: before, after, rfl, rfl⟩

/-- A text is cut behind a character and some more where the text behind it is cut. -/
theorem isCut_words_cons {c : Char} (h : isWordChar c = true) {rest front : List Char}
    (hfront : front ≠ []) : IsCut (words (c :: rest)) (c :: front) ↔ IsCut (words rest) front := by
  rcases words_cons_cases h rest with heq | ⟨hne, heq⟩
  · rw [heq, isCut_singleton_cons]
  · rw [heq, isCut_extend hne hfront]

/-- A word that two characters share is not cut between them. -/
theorem not_isCut_extend {c : Char} {words : List (List Char)} (hne : words ≠ [])
    (hword : [] ∉ words) : ¬ IsCut (extend c words) [c] := by
  rintro ⟨before, after, hsplit, hflatten⟩
  cases words with
  | nil => exact hne rfl
  | cons word words =>
    cases before with
    | nil => cases hflatten
    | cons first before =>
      obtain ⟨rfl, rfl⟩ := List.cons.inj hsplit
      have hempty : word ++ before.flatten = [] := (List.cons.inj hflatten).2
      exact hword (List.mem_cons.mpr (.inl (List.append_eq_nil_iff.mp hempty).1.symm))

theorem nil_not_mem_extend {c : Char} {pieces : List (List Char)} (h : [] ∉ pieces) :
    [] ∉ extend c pieces := by
  cases pieces with
  | nil => simp [extend]
  | cons piece pieces => simpa [extend] using fun hmem => h (List.mem_cons_of_mem _ hmem)

theorem nil_not_mem_words (text : List Char) : [] ∉ words text := by
  induction text with
  | nil => simp
  | cons c rest ih =>
    cases hc : isWordChar c with
    | false => rwa [words_of_not hc]
    | true =>
      rcases words_cons_cases hc rest with heq | ⟨-, heq⟩
      · rw [heq]
        simpa using ih
      · rw [heq]
        exact nil_not_mem_extend ih

theorem flatten_words (text : List Char) : (words text).flatten = text.filter isWordChar := by
  induction text with
  | nil => rfl
  | cons c rest ih =>
    cases hc : isWordChar c with
    | false => rw [words_of_not hc, ih, List.filter_cons_of_neg (Bool.eq_false_iff.mp hc)]
    | true =>
      rw [List.filter_cons_of_pos hc, ← ih]
      rcases words_cons_cases hc rest with heq | ⟨-, heq⟩
      · rw [heq]
        rfl
      · rw [heq, flatten_extend]

/-- Characters that are left out of all words end one. -/
theorem isCut_words_iff {a b : Char} (ha : isWordChar a = true) (hb : isWordChar b = true)
    {gap : List Char} (hgap : ∀ c ∈ gap, isWordChar c = false) (after : List Char) :
    IsCut (words (a :: (gap ++ b :: after))) [a] ↔ gap ≠ [] ∨ startsWord a b = true := by
  cases gap with
  | nil =>
    rw [List.nil_append, words_cons_cons ha hb]
    split
    · next hstarts => exact iff_of_true ⟨[[a]], _, rfl, rfl⟩ (.inr hstarts)
    · next hstarts =>
      refine iff_of_false ?_ (by simpa using hstarts)
      exact not_isCut_extend (words_ne_nil hb after) (nil_not_mem_words _)
  | cons c gap =>
    have hstops : Stops isWordChar (c :: gap ++ b :: after) :=
      stops_cons.mpr (hgap c List.mem_cons_self)
    rw [words_of_stops ha hstops]
    exact iff_of_true ⟨[[a]], _, rfl, rfl⟩ (.inl (List.cons_ne_nil c gap))

/-- What it means to divide a text into words. Nothing but the characters that are neither
    letters nor numbers is lost, and between two characters that are kept one after the other
    a word ends exactly if something was left out there or a lower-case letter or a number
    meets an upper-case letter. -/
structure IsDivision (text : List Char) (words : List (List Char)) : Prop where
  ne_nil : ∀ word ∈ words, word ≠ []
  flatten_eq : words.flatten = text.filter isWordChar
  isCut_iff : ∀ before a gap b after, text = before ++ a :: (gap ++ b :: after) →
    isWordChar a = true → isWordChar b = true → (∀ c ∈ gap, isWordChar c = false) →
      (IsCut words ((before ++ [a]).filter isWordChar) ↔
        gap ≠ [] ∨ (Unicode.isLower a = true ∨ Unicode.isNumber a = true) ∧ Unicode.isUpper b = true)

/-- Every text is divided into its words. -/
theorem isDivision_words (text : List Char) : IsDivision text (words text) where
  ne_nil _ hword hnil := nil_not_mem_words text (hnil ▸ hword)
  flatten_eq := flatten_words text
  isCut_iff before a gap b after htext ha hb hgap := by
    subst htext
    rw [← Bool.or_eq_true, ← Bool.and_eq_true]
    induction before with
    | nil =>
      rw [List.nil_append, List.nil_append, List.filter_cons_of_pos ha]
      exact isCut_words_iff ha hb hgap after
    | cons c before ih =>
      cases hc : isWordChar c with
      | false =>
        rw [List.cons_append, List.cons_append, words_of_not hc,
          List.filter_cons_of_neg (Bool.eq_false_iff.mp hc)]
        exact ih
      | true =>
        have hne : (before ++ [a]).filter isWordChar ≠ [] := by simp [ha]
        rw [List.cons_append, List.cons_append, List.filter_cons_of_pos hc,
          isCut_words_cons hc hne]
        exact ih

/-- Upper-case letters in a row stay together, with what follows them. -/
example : words "aB2C: XMLt".toList = ["a", "B2", "C", "XMLt"].map String.toList := by
  decide +kernel

end StaticPages.Text
