import StaticPages.Proofs.Text.Words
import StaticPages.Proofs.Unicode.CaseMapping
import StaticPages.Text.Conversion

namespace StaticPages.Text

section Lower

theorem lower_ne_nil {word : List Char} (h : word ≠ []) : lower word ≠ [] := by
  cases word with
  | nil => exact absurd rfl h
  | cons c rest =>
    rw [lower, lowerAfter]
    refine List.append_ne_nil_of_left_ne_nil ?_ _
    split
    · simp
    · exact Unicode.lower_ne_nil c

/-- Without a capital sigma, no character has an influence on another. -/
theorem lowerAfter_eq_flatMap {text : List Char} (h : 'Σ' ∉ text) (before : List Char) :
    lowerAfter before text = text.flatMap Unicode.lower := by
  induction text generalizing before with
  | nil => rfl
  | cons c rest ih =>
    rw [List.mem_cons, not_or] at h
    rw [lowerAfter, if_neg (Ne.symm h.1), ih h.2, List.flatMap_cons]

theorem lower_eq_flatMap {text : List Char} (h : 'Σ' ∉ text) :
    lower text = text.flatMap Unicode.lower :=
  lowerAfter_eq_flatMap h []

theorem lower_eq_self {text : List Char} (hsigma : 'Σ' ∉ text)
    (h : ∀ c ∈ text, Unicode.lower c = [c]) : lower text = text := by
  rw [lower_eq_flatMap hsigma, List.flatMap_congr h, List.flatMap_singleton']

end Lower

section Joined

/-- Characters that make one word as long as they stand next to each other. -/
def IsPlainWord (word : List Char) : Prop :=
  ∀ c ∈ word, isWordChar c = true ∧ Unicode.isUpper c = false

instance (word : List Char) : Decidable (IsPlainWord word) :=
  decidable_of_iff (word.all fun c => isWordChar c && !Unicode.isUpper c) (by simp [IsPlainWord])

theorem words_append {word : List Char} (hne : word ≠ []) (hword : IsPlainWord word)
    {rest : List Char} (hrest : Stops isWordChar rest) :
    words (word ++ rest) = word :: words rest := by
  induction word with
  | nil => exact absurd rfl hne
  | cons a word ih =>
    obtain ⟨⟨ha, -⟩, hword⟩ := List.forall_mem_cons.mp hword
    cases word with
    | nil => exact words_of_stops ha hrest
    | cons b word =>
      obtain ⟨hb, hlower⟩ := hword b List.mem_cons_self
      have hstarts : startsWord a b = false := by simp [startsWord, hlower]
      rw [List.cons_append, List.cons_append, words_cons_cons ha hb, hstarts,
        ← List.cons_append, ih (List.cons_ne_nil b word) hword]
      rfl

/-- Words in lower case with separators between them are found again. -/
theorem words_intercalate {separator : Char} (hseparator : isWordChar separator = false)
    {parts : List (List Char)} (hne : ∀ part ∈ parts, part ≠ [])
    (hparts : ∀ part ∈ parts, IsPlainWord part) :
    words ([separator].intercalate parts) = parts := by
  induction parts with
  | nil => rfl
  | cons part parts ih =>
    obtain ⟨hpart, hne⟩ := List.forall_mem_cons.mp hne
    obtain ⟨hplain, hparts⟩ := List.forall_mem_cons.mp hparts
    cases parts with
    | nil =>
      rw [List.intercalate_singleton, ← List.append_nil part, words_append hpart hplain (stops_nil _)]
      simp
    | cons next parts =>
      rw [List.intercalate_cons_cons, List.append_assoc, List.singleton_append,
        words_append hpart hplain (stops_cons.mpr hseparator), words_of_not hseparator,
        ih hne hparts]

end Joined

/-- Whether the words of a text in lower case are words that lower case leaves alone. -/
def KeepsWords (text : List Char) : Prop :=
  ∀ word ∈ words text, IsPlainWord (lower word) ∧ lower (lower word) = lower word

instance (text : List Char) : Decidable (KeepsWords text) :=
  decidable_of_iff ((words text).all fun word =>
      decide (IsPlainWord (lower word)) && decide (lower (lower word) = lower word))
    (by simp [KeepsWords])

theorem words_lowerWords {separator : Char} (hseparator : isWordChar separator = false)
    {text : List Char} (h : KeepsWords text) :
    words (lowerWords separator text) = (words text).map lower := by
  refine words_intercalate hseparator ?_ ?_
  · simp only [List.forall_mem_map]
    exact fun word hword => lower_ne_nil fun hnil => nil_not_mem_words text (hnil ▸ hword)
  · simp only [List.forall_mem_map]
    exact fun word hword => (h word hword).1

/-- Only the last separator counts. -/
theorem lowerWords_lowerWords (separator : Char) {other : Char} (hother : isWordChar other = false)
    {text : List Char} (h : KeepsWords text) :
    lowerWords separator (lowerWords other text) = lowerWords separator text := by
  have hlower : ∀ word ∈ words text, (lower ∘ lower) word = lower word :=
    fun word hword => (h word hword).2
  rw [lowerWords, words_lowerWords hother h, List.map_map, List.map_congr_left hlower, lowerWords]

theorem keepsWords_of_ascii {text : List Char} (h : ∀ c ∈ text, c.toNat < 0x80) :
    KeepsWords text := by
  have hsigma : Unicode.isUpper 'Σ' = true := by decide +kernel
  intro word hword
  -- The characters of a word are characters of the text.
  have hword (c : Char) (hc : c ∈ word) : c.toNat < 0x80 ∧ isWordChar c = true := by
    have hmem : c ∈ (words text).flatten := List.mem_flatten.mpr ⟨word, hword, hc⟩
    rw [flatten_words, List.mem_filter] at hmem
    exact ⟨h c hmem.1, hmem.2⟩
  have hnone : 'Σ' ∉ word := fun hmem => absurd (hword _ hmem).1 (by decide)
  have hlower (d : Char) (hd : d ∈ lower word) :
      Unicode.lower d = [d] ∧ isWordChar d = true ∧ Unicode.isUpper d = false := by
    rw [lower_eq_flatMap hnone] at hd
    obtain ⟨c, hc, hd⟩ := List.mem_flatMap.mp hd
    obtain ⟨hascii, hkept⟩ := hword c hc
    obtain ⟨e, hcase, hsettled, hsmall, hletter⟩ := Unicode.exists_lower_of_ascii hascii
    rw [hcase, List.mem_singleton] at hd
    subst hd
    refine ⟨hsettled, ?_, hsmall⟩
    rcases hletter with rfl | hletter
    · exact hkept
    · simp [isWordChar, Unicode.isLetter, hletter]
  refine ⟨fun d hd => (hlower d hd).2, lower_eq_self ?_ fun d hd => (hlower d hd).1⟩
  intro hmem
  exact absurd ((hlower _ hmem).2.2.symm.trans hsigma) Bool.false_ne_true

/-- Words in lower case joined by hyphens or low lines are stable: reading the words again gives
    the same ones, so that converting again changes at most the separators. Every ASCII text has
    such words. -/
theorem separated_spec (text : String) :
    ((∀ c ∈ text.toList, c.toNat < 0x80) → KeepsWords text.toList) ∧
      (KeepsWords text.toList →
        words (convert text .kebab).toList = (words text.toList).map lower ∧
        words (convert text .snake).toList = (words text.toList).map lower ∧
        convert (convert text .kebab) .kebab = convert text .kebab ∧
        convert (convert text .snake) .snake = convert text .snake ∧
        convert (convert text .snake) .kebab = convert text .kebab ∧
        convert (convert text .kebab) .snake = convert text .snake) := by
  have hhyphen : isWordChar '-' = false := by decide +kernel
  have hlowLine : isWordChar '_' = false := by decide +kernel
  refine ⟨keepsWords_of_ascii, fun h => ?_⟩
  simp only [convert, convertChars, String.toList_ofList]
  exact ⟨words_lowerWords hhyphen h, words_lowerWords hlowLine h,
    congrArg String.ofList (lowerWords_lowerWords '-' hhyphen h),
    congrArg String.ofList (lowerWords_lowerWords '_' hlowLine h),
    congrArg String.ofList (lowerWords_lowerWords '-' hlowLine h),
    congrArg String.ofList (lowerWords_lowerWords '_' hhyphen h)⟩

/-- A sigma at the end of a word has a lower case of its own, which is kept. -/
theorem separated_spec_sigma :
    ((∀ c ∈ "XML v2".toList, c.toNat < 0x80) ∧ KeepsWords "XML v2".toList) ∧
      KeepsWords "ΑΣ 2B".toList ∧
        words (convert "ΑΣ 2B" .kebab).toList = ["ας", "2", "b"].map String.toList ∧
          convert (convert "ΑΣ 2B" .snake) .kebab = "ας-2-b" := by
  have hascii : ∀ c ∈ "XML v2".toList, c.toNat < 0x80 := by simp
  have hkeeps : KeepsWords "ΑΣ 2B".toList := by decide +kernel
  obtain ⟨hwords, -, -, -, hkebab, -⟩ := (separated_spec "ΑΣ 2B").2 hkeeps
  exact ⟨⟨hascii, (separated_spec "XML v2").1 hascii⟩, hkeeps, hwords.trans (by decide +kernel),
    hkebab.trans (by decide +kernel)⟩

end StaticPages.Text
