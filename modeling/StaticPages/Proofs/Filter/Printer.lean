import StaticPages.Filter.Printer
import StaticPages.Proofs.Filter.Binding
import StaticPages.Proofs.Json.Escape

namespace StaticPages.Filter

open Token

/-- What a printed value is read as: quotes are taken off, escapes stay. -/
def reread (value : String) : String :=
  if isBare value then value else String.ofList (value.toList.flatMap Json.escape)

/-- The filter as it is read back: its texts are reread, all else is the same. -/
def readBack : Filter → Filter
  | replace find replacement limit => replace (reread find) (reread replacement) limit
  | truncate characters trail => truncate characters (reread trail)
  | filter => filter

/-- The texts that templates give to a filter. -/
def texts : Filter → List String
  | replace find replacement _ => [find, replacement]
  | truncate _ trail => [trail]
  | _ => []

theorem isBare_iff {value : String} :
    isBare value = true ↔ value.toList ≠ [] ∧ Text.trimChars value.toList = value.toList ∧
      ∀ c ∈ value.toList, c ≠ '"' ∧ Argument.Inside c := by
  simp only [isBare, Argument.Inside, Bool.and_eq_true, Bool.not_eq_true', beq_iff_eq,
    List.isEmpty_eq_false_iff, List.all_eq_true, bne_iff_ne]
  constructor
  · rintro ⟨⟨hne, htrim⟩, hall⟩
    refine ⟨hne, htrim, fun c hc => ?_⟩
    obtain ⟨⟨⟨⟨hcomma, hpipe⟩, hquote⟩, hbrace⟩, hline⟩ := hall c hc
    exact ⟨hquote, hcomma, hpipe, hline, hbrace⟩
  · rintro ⟨hne, htrim, hall⟩
    refine ⟨⟨hne, htrim⟩, fun c hc => ?_⟩
    obtain ⟨hquote, hcomma, hpipe, hline, hbrace⟩ := hall c hc
    exact ⟨⟨⟨⟨hcomma, hpipe⟩, hquote⟩, hbrace⟩, hline⟩

theorem unquoted_of_isBare {value : String} (h : isBare value = true) :
    Argument.Unquoted value.toList := by
  obtain ⟨hne, htrim, hall⟩ := isBare_iff.mp h
  have hinside : ∀ c ∈ value.toList, Argument.Inside c := fun c hc => (hall c hc).2
  exact Argument.unquoted_iff.mpr ⟨⟨hne, htrim⟩, Argument.bare_eq_self_of_inside hinside,
    fun hlast => (hinside _ (List.mem_of_getLast? hlast)).2.2.2 rfl,
    fun hhead => (hall _ (List.mem_of_mem_head? hhead)).1 rfl⟩

theorem isBare_repr (n : Nat) : isBare (Nat.repr n) = true := by
  have hdigit : ∀ c ∈ (Nat.repr n).toList, c.isDigit = true := by
    rw [Nat.toList_repr]
    intro c hc
    exact Nat.isDigit_of_mem_toDigits (by decide) (by decide) hc
  have hnot : ∀ c ∈ (Nat.repr n).toList, ∀ d : Char, d.isDigit = false → c ≠ d := by
    rintro c hc d hd rfl
    rw [hdigit c hc] at hd
    cases hd
  refine isBare_iff.mpr ⟨by simp, ?_, ?_⟩
  · exact Text.trimChars_of_forall fun c hc => Text.isSpace_of_isDigit (hdigit c hc)
  · intro c hc
    exact ⟨hnot c hc _ (by decide), hnot c hc _ (by decide), hnot c hc _ (by decide),
      hnot c hc _ (by decide), hnot c hc _ (by decide)⟩

/-- A value that reads back keeps its text exactly if it is bare or needs no escapes. -/
theorem reread_eq_self_iff {value : String} :
    reread value = value ↔ isBare value = true ∨ ∀ c ∈ value.toList, ¬ Json.Escaped c := by
  unfold reread
  split
  · next hbare => simp [hbare]
  · next hbare =>
    rw [← Json.flatMap_escape_eq_self_iff, ← String.toList_inj, String.toList_ofList]
    simp [hbare]

theorem valueText_reads_quote {value : String} {before after rest : List Char} {c : Cursor}
    (h : c.ahead = before ++ ((quote value).toList ++ (after ++ rest)))
    (hbefore : ∀ x ∈ before, Text.isBlank x = true)
    (hafter : ∀ x ∈ after, Text.isBlank x = true) (hrest : Argument.Ends rest) :
    Parser.Reads Argument.valueText c (reread value) rest := by
  by_cases hbare : isBare value = true
  · rw [quote, if_pos hbare] at h
    have hread := Argument.valueText_reads_bare h (unquoted_of_isBare hbare) hbefore hafter hrest
    rw [String.ofList_toList] at hread
    rwa [reread, if_pos hbare]
  · rw [quote, if_neg hbare, Json.quote, String.toList_ofList] at h
    rw [reread, if_neg hbare]
    exact Argument.valueText_reads_quoted (by simpa using h)
      (Json.quotedBody_flatMap_escape value.toList) hbefore hafter hrest

/-- A value given to a parameter by its label: how it is printed and what is read. -/
def printed (given : String × String) : List Char × Argument :=
  (' ' :: (given.1.toList ++ ':' :: ' ' :: (quote given.2).toList), assign (given.1, reread given.2))

theorem writes_printed {given : String × String} (hlabel : IsName given.1.toList) :
    Argument.Writes (printed given).1 (printed given).2 := by
  intro c after rest h hafter hrest
  have hahead : c.ahead = [' '] ++
      (given.1.toList ++ ([] ++ ':' :: ([' '] ++ ((quote given.2).toList ++ (after ++ rest))))) := by
    simpa [printed] using h
  have hblank : ∀ x ∈ [' '], Text.isBlank x = true := by simp [Text.isBlank]
  have hread := Argument.parse_reads_labelled hahead hblank hlabel (by simp)
    fun d hd => valueText_reads_quote hd hblank hafter hrest
  rwa [String.ofList_toList] at hread

/-- The name of a filter and the values that it gives to its parameters. -/
def spelling : Filter → Name × List (String × String)
  | ceil => (.ceil, [])
  | floor => (.floor, [])
  | round precision => (.round, [("precision", precision.toText)])
  | text textCase => (.text, [("case", textCase.name)])
  | markdown => (.markdown, [])
  | replace find replacement limit =>
    (.replace, [("find", find), ("replacement", replacement)] ++
      limit.toList.map fun n => ("limit", Nat.repr n))
  | reverse => (.reverse, [])
  | truncate characters trail =>
    (.truncate, [("characters", Nat.repr characters), ("trail", trail)])

theorem quote_of_isBare {value : String} (h : isBare value = true) : quote value = value := by
  rw [quote, if_pos h]

theorem reread_of_isBare {value : String} (h : isBare value = true) : reread value = value := by
  rw [reread, if_pos h]

theorem isBare_caseName (textCase : TextCase) : isBare textCase.name = true := by
  cases textCase <;> decide

theorem ofName?_name (textCase : TextCase) : TextCase.ofName? textCase.name = some textCase := by
  cases textCase <;> rfl

/-- A filter is printed as its name and, behind an equals sign, its labelled values. -/
theorem toList_print {filter : Filter} (h : filter.WithinLimits) :
    filter.print.toList = filter.spelling.1.toText.toList ++
      match filter.spelling.2 with
      | [] => []
      | items => ' ' :: '=' :: [','].intercalate ((items.map printed).map Prod.fst) := by
  cases filter with
  | round precision =>
    have hprecision : ∃ n ≤ maxPrecision, precision = Decimal.ofNat n := h
    obtain ⟨n, _, rfl⟩ := hprecision
    show ("round = precision: " ++ (Decimal.ofNat n).toText).toList = _
    simp [spelling, printed, List.intercalate, Name.toText, Decimal.toText_ofNat,
      quote_of_isBare (isBare_repr n)]
  | text textCase =>
    show ("text = case: " ++ textCase.name).toList = _
    simp [spelling, printed, List.intercalate, Name.toText,
      quote_of_isBare (isBare_caseName textCase)]
  | replace find replacement limit =>
    cases limit with
    | none =>
      show ("replace = find: " ++ quote find ++ ", replacement: " ++ quote replacement ++
        "").toList = _
      simp [spelling, printed, List.intercalate, Name.toText]
    | some n =>
      show ("replace = find: " ++ quote find ++ ", replacement: " ++ quote replacement ++
        (", limit: " ++ Nat.repr n)).toList = _
      simp [spelling, printed, List.intercalate, Name.toText, quote_of_isBare (isBare_repr n)]
  | truncate characters trail =>
    show ("truncate = characters: " ++ Nat.repr characters ++ ", trail: " ++
      quote trail).toList = _
    simp [spelling, printed, List.intercalate, Name.toText,
      quote_of_isBare (isBare_repr characters)]
  | _ => rfl

theorem mem_parameters_of_spelling (filter : Filter) :
    ∀ item ∈ filter.spelling.2, item.1 ∈ filter.spelling.1.parameters := by
  cases filter with
  | replace find replacement limit => cases limit <;> simp [spelling, Name.parameters]
  | _ => simp [spelling, Name.parameters]

theorem nodup_spelling (filter : Filter) : (filter.spelling.2.map Prod.fst).Nodup := by
  cases filter with
  | replace find replacement limit => cases limit <;> simp [spelling]
  | _ => simp [spelling]

theorem build_spelling {filter : Filter} (h : filter.WithinLimits) :
    filter.spelling.1.build (filter.spelling.2.map fun given => (given.1, reread given.2)) =
      .ok filter.readBack := by
  cases filter with
  | round precision =>
    have hprecision : ∃ n ≤ maxPrecision, precision = Decimal.ofNat n := h
    obtain ⟨n, hn, rfl⟩ := hprecision
    have hwhole := Name.whole_repr .round "precision" (Nat.le_trans hn (by decide)) hn
    simp [spelling, Decimal.toText_ofNat, reread_of_isBare (isBare_repr n), Name.build,
      Name.whole?, hwhole, readBack, Except.map]
  | text textCase =>
    simp [spelling, reread_of_isBare (isBare_caseName textCase), Name.build, ofName?_name, readBack]
  | replace find replacement limit =>
    cases limit with
    | none =>
      simp [spelling, Name.build, Name.whole?, List.lookup_cons, readBack, Except.map]
    | some n =>
      have hwhole := Name.whole_repr .replace "limit" (h n rfl) (h n rfl)
      simp [spelling, reread_of_isBare (isBare_repr n), Name.build, Name.whole?,
        List.lookup_cons, hwhole, readBack, Except.map]
  | truncate characters trail =>
    have hle : characters ≤ maxWhole := h
    have hwhole := Name.whole_repr .truncate "characters" hle hle
    simp [spelling, reread_of_isBare (isBare_repr characters), Name.build, Name.whole?,
      List.lookup_cons, hwhole, readBack, Except.map]
  | _ => rfl

/-- The arguments that are read from a printed filter make up what it is read as. -/
theorem apply_spelling {filter : Filter} (h : filter.WithinLimits) :
    filter.spelling.1.apply ((filter.spelling.2.map printed).map Prod.snd) =
      .ok filter.readBack := by
  have hprinted : (filter.spelling.2.map printed).map Prod.snd =
      (filter.spelling.2.map fun given => (given.1, reread given.2)).map assign := by
    simp [printed]
  rw [hprinted, Name.apply_assign _ (by simpa [Function.comp_def] using nodup_spelling filter), build_spelling h]
  intro item hitem
  obtain ⟨given, hgiven, rfl⟩ := List.mem_map.mp hitem
  exact mem_parameters_of_spelling filter given hgiven

/-- A printed filter is read back wherever a value may end behind it. Of the blanks
    that follow it a part may be passed over. -/
theorem parse_reads_print {filter : Filter} (h : filter.WithinLimits)
    {before after rest : List Char} {c : Cursor}
    (hahead : c.ahead = before ++ (filter.print.toList ++ (after ++ rest)))
    (hbefore : ∀ x ∈ before, Text.isBlank x = true)
    (hafter : ∀ x ∈ after, Text.isBlank x = true) (hrest : Argument.Ends rest)
    (hcomma : rest.head? ≠ some ',') :
    ∃ passed left, after = passed ++ left ∧
      Parser.Reads parse c filter.readBack (left ++ rest) := by
  have happly := apply_spelling h
  rw [toList_print h] at hahead
  cases hspelling : filter.spelling.2 with
  | nil =>
    rw [hspelling] at hahead happly
    refine ⟨[], after, rfl, parse_reads_name happly ?_ hbefore hafter hrest⟩
    simpa using hahead
  | cons first others =>
    refine ⟨after, [], by simp, ?_⟩
    have hitems : ∀ item ∈ filter.spelling.2.map printed, Argument.Writes item.1 item.2 := by
      intro item hitem
      obtain ⟨given, hgiven, rfl⟩ := List.mem_map.mp hitem
      have hlabel := mem_parameters_of_spelling filter given hgiven
      exact writes_printed (Name.isName_of_mem_parameters hlabel)
    refine parse_reads_arguments (by simp [hspelling]) hitems happly ?_ hbefore hafter hrest hcomma
    rw [hahead]
    simp [hspelling]

theorem readBack_eq_self_iff {filter : Filter} : filter.readBack = filter ↔
    ∀ value ∈ filter.texts, isBare value = true ∨ ∀ c ∈ value.toList, ¬ Json.Escaped c := by
  simp only [← reread_eq_self_iff]
  cases filter <;> simp [readBack, texts]

theorem parse_print_of_withinLimits {filter : Filter} (h : filter.WithinLimits) :
    parse (Cursor.ofString filter.print) =
      .ok (filter.readBack, ⟨[], Position.start.after filter.print.toList⟩) := by
  have hahead : (Cursor.ofString filter.print).ahead =
      [] ++ (filter.print.toList ++ ([] ++ [])) := by
    simp [Cursor.ofString]
  obtain ⟨passed, left, hnil, e, hread, hend⟩ := parse_reads_print h hahead (by simp) (by simp)
    Argument.ends_nil (by simp)
  obtain ⟨-, rfl⟩ := List.append_eq_nil_iff.mp hnil.symm
  have hreaches : (Cursor.ofString filter.print).Reaches
      ⟨[], Position.start.after filter.print.toList⟩ :=
    ⟨filter.print.toList, by simp [Cursor.ofString], rfl⟩
  rw [hread, (parse_reaches hread).eq_of_ahead hreaches hend]

/-- What is printed for a filter is read to its end, and as the same filter exactly if
    every text in it is bare or needs no escapes: quoting escapes a text that is not
    bare, and reading takes the escapes as they stand. -/
theorem parse_print {c d : Cursor} {filter : Filter} (h : parse c = .ok (filter, d)) :
    parse (Cursor.ofString filter.print) =
        .ok (filter.readBack, ⟨[], Position.start.after filter.print.toList⟩) ∧
      (parse (Cursor.ofString filter.print) =
          .ok (filter, ⟨[], Position.start.after filter.print.toList⟩) ↔
        ∀ value ∈ filter.texts, isBare value = true ∨ ∀ c ∈ value.toList, ¬ Json.Escaped c) := by
  have hread := parse_print_of_withinLimits (withinLimits_of_parse h)
  refine ⟨hread, ?_⟩
  rw [hread, ← readBack_eq_self_iff]
  simp only [Except.ok.injEq, Prod.mk.injEq, and_true]

/-- A quote within a quoted text gains backslashes whenever it is printed and read. -/
theorem parse_print_gains_backslashes :
    parse (Cursor.ofString "replace = find: \"a\\\"b\", replacement: \"\"") =
        .ok (replace "a\\\"b" "" none, ⟨[], 1, 39⟩) ∧
      parse (Cursor.ofString (replace "a\\\"b" "" none).print) =
        .ok (replace "a\\\\\\\"b" "" none, ⟨[], 1, 41⟩) ∧
      parse (Cursor.ofString (replace "a\\\"b" "" none).print) ≠
        .ok (replace "a\\\"b" "" none, ⟨[], 1, 41⟩) := by
  have hread : parse (Cursor.ofString "replace = find: \"a\\\"b\", replacement: \"\"") =
      .ok (replace "a\\\"b" "" none, ⟨[], 1, 39⟩) :=
    parse_print_of_withinLimits (show (replace "a\"b" "" none).WithinLimits from nofun)
  have hposition : Position.start.after (replace "a\\\"b" "" none).print.toList = ⟨1, 41⟩ := by
    decide
  obtain ⟨hprint, hiff⟩ := parse_print hread
  rw [hposition] at hprint hiff
  refine ⟨hread, hprint, ?_⟩
  rw [Ne, hiff]
  intro hall
  rcases hall "a\\\"b" (by simp [texts]) with hbare | hplain
  · exact absurd hbare (by decide)
  · exact hplain '"' (by decide) (.inl rfl)

end StaticPages.Filter
