import StaticPages.Proofs.Filter.Extension

namespace StaticPages.Filter.Argument

open Token

/-- How a value is written: as it is, or between quotes. -/
inductive SpellsValue : List Char → String → Prop
  | bare {value : String} (hvalue : Unquoted value.toList) : SpellsValue value.toList value
  | quoted {value : String} (hbody : QuotedBody value.toList) :
      SpellsValue ('"' :: (value.toList ++ ['"'])) value

/-- How an argument is written. Blanks around a label, a colon and a value belong to none of
    them. A value without quotes and without a label must not look as if it had one. -/
inductive Spells : List Char → Argument → Prop
  | labelled {label value : String} {before between gap written after : List Char}
      (hbefore : ∀ x ∈ before, Text.isBlank x = true) (hlabel : IsName label.toList)
      (hbetween : ∀ x ∈ between, Text.isBlank x = true)
      (hgap : ∀ x ∈ gap, Text.isBlank x = true) (hvalue : SpellsValue written value)
      (hafter : ∀ x ∈ after, Text.isBlank x = true) :
      Spells (before ++ (label.toList ++ (between ++ ':' :: (gap ++ (written ++ after)))))
        ⟨some label, value⟩
  | bare {value : String} {before after : List Char}
      (hbefore : ∀ x ∈ before, Text.isBlank x = true) (hvalue : Unquoted value.toList)
      (hlabel : ¬ BeginsWithLabel value.toList)
      (hafter : ∀ x ∈ after, Text.isBlank x = true) :
      Spells (before ++ (value.toList ++ after)) ⟨none, value⟩
  | quoted {value : String} {before after : List Char}
      (hbefore : ∀ x ∈ before, Text.isBlank x = true) (hbody : QuotedBody value.toList)
      (hafter : ∀ x ∈ after, Text.isBlank x = true) :
      Spells (before ++ '"' :: (value.toList ++ '"' :: after)) ⟨none, value⟩

theorem SpellsValue.reads {value : String} {before written after rest : List Char} {c : Cursor}
    (h : SpellsValue written value) (hahead : c.ahead = before ++ (written ++ (after ++ rest)))
    (hbefore : ∀ x ∈ before, Text.isBlank x = true)
    (hafter : ∀ x ∈ after, Text.isBlank x = true) (hrest : Ends rest) :
    Parser.Reads valueText c value rest := by
  rw [← value.ofList_toList]
  cases h with
  | bare hvalue => exact valueText_reads_bare hahead hvalue hbefore hafter hrest
  | quoted hbody =>
    exact valueText_reads_quoted (by simpa using hahead) hbody hbefore hafter hrest

/-- What follows an argument does not give it a label. -/
theorem hasLabel_eq_false {before value after rest : List Char} {c : Cursor}
    (hahead : c.ahead = before ++ (value ++ (after ++ rest)))
    (hbefore : ∀ x ∈ before, Text.isBlank x = true) (hvalue : Unquoted value)
    (hlabel : ¬ BeginsWithLabel value) (hafter : ∀ x ∈ after, Text.isBlank x = true)
    (hrest : Ends rest) : hasLabel c = false := by
  have hfront : Text.Stops Text.isBlank value :=
    (Text.stops_of_trimChars hvalue.trimmed).blank
  have hstart : (⟨before ++ value, c.position⟩ : Cursor).skipBlanks.ahead = value :=
    Cursor.ahead_skipWhile rfl hbefore hfront
  have hnone : hasLabel ⟨before ++ value, c.position⟩ = false := by
    rwa [Bool.eq_false_iff, Ne, hasLabel_iff, hstart]
  have hmore : c = (⟨before ++ value, c.position⟩ : Cursor).append (after ++ rest) := by
    simp only [Cursor.append, List.append_assoc, ← hahead]
  rw [hmore]
  refine hasLabel_append_of_stops (hstart.symm ▸ hvalue.ne_nil) hnone ?_ ?_
  · exact Text.stops_append (fun x hx => isNameChar_of_isBlank (hafter x hx))
      (hrest.stops rfl rfl rfl rfl)
  · rw [Text.dropWhile_append_of_stops hafter hrest.stops_blank]
    exact hrest.head?_ne (by decide)

/-- An argument as it is written is read as such wherever a value may end behind it. -/
theorem Spells.writes {text : List Char} {a : Argument} (h : Spells text a) : Writes text a := by
  intro c blanks rest hahead hblanks hrest
  cases h with
  | @labelled label value before between gap written after hbefore hlabel hbetween hgap hvalue
      hafter =>
    have hall : ∀ x ∈ after ++ blanks, Text.isBlank x = true :=
      List.forall_mem_append.mpr ⟨hafter, hblanks⟩
    have hlabelled : c.ahead = before ++ (label.toList ++ (between ++
        ':' :: (gap ++ (written ++ ((after ++ blanks) ++ rest))))) := by
      simpa using hahead
    have hread := parse_reads_labelled hlabelled hbefore hlabel hbetween
      fun d hd => hvalue.reads hd hgap hall hrest
    rwa [String.ofList_toList] at hread
  | @bare value before after hbefore hvalue hlabel hafter =>
    have hall : ∀ x ∈ after ++ blanks, Text.isBlank x = true :=
      List.forall_mem_append.mpr ⟨hafter, hblanks⟩
    have hbare : c.ahead = before ++ (value.toList ++ ((after ++ blanks) ++ rest)) := by
      simpa using hahead
    exact parse_reads_unlabelled (hasLabel_eq_false hbare hbefore hvalue hlabel hall hrest)
      ((SpellsValue.bare hvalue).reads hbare hbefore hall hrest)
  | @quoted value before after hbefore hbody hafter =>
    have hall : ∀ x ∈ after ++ blanks, Text.isBlank x = true :=
      List.forall_mem_append.mpr ⟨hafter, hblanks⟩
    have hquoted : c.ahead = before ++ (('"' :: (value.toList ++ ['"'])) ++
        ((after ++ blanks) ++ rest)) := by
      simpa using hahead
    have hstart : c.skipBlanks.ahead =
        '"' :: (value.toList ++ ['"']) ++ ((after ++ blanks) ++ rest) :=
      Cursor.ahead_skipWhile hquoted hbefore (Text.stops_cons.mpr rfl)
    have hnone : hasLabel c = false := by
      rw [Bool.eq_false_iff, Ne, hasLabel_iff, hstart]
      exact not_beginsWithLabel_cons rfl _
    exact parse_reads_unlabelled hnone ((SpellsValue.quoted hbody).reads hquoted hbefore hall hrest)

/-- What may follow the arguments of a filter: nothing, a pipe, or two closing braces. -/
def Closes (rest : List Char) : Prop :=
  rest = [] ∨ ['|'] <+: rest ∨ ['\x7d', '\x7d'] <+: rest

instance (rest : List Char) : Decidable (Closes rest) :=
  inferInstanceAs (Decidable (_ ∨ _ ∨ _))

theorem Closes.ends {rest : List Char} (h : Closes rest) : Ends rest := by
  rcases h with rfl | ⟨more, rfl⟩ | ⟨more, rfl⟩
  · exact ends_nil
  · simp [Ends, bare]
  · simp [Ends, bare]

theorem Closes.head?_ne {rest : List Char} (h : Closes rest) : rest.head? ≠ some ',' := by
  rcases h with rfl | ⟨more, rfl⟩ | ⟨more, rfl⟩ <;> simp

/-- A list of arguments is read as it is written: every value with its label, in order, up to
    what may follow the list. No comma, pipe or brace within quotes divides it, nor does a
    single brace within a value. -/
theorem list_spec {items : List (List Char × Argument)} (hne : items ≠ [])
    (hitems : ∀ item ∈ items, Spells item.1 item.2) {rest : List Char} (hrest : Closes rest)
    (place : Position) :
    list ⟨[','].intercalate (items.map Prod.fst) ++ rest, place⟩ =
      .ok (items.map Prod.snd, ⟨rest, place.after ([','].intercalate (items.map Prod.fst))⟩) := by
  have hahead : (⟨[','].intercalate (items.map Prod.fst) ++ rest, place⟩ : Cursor).ahead =
      [','].intercalate (items.map Prod.fst) ++ ([] ++ rest) := rfl
  obtain ⟨d, hread, hd⟩ := list_reads hne (fun item hitem => (hitems item hitem).writes) hahead
    (by simp) hrest.ends hrest.head?_ne
  have hreaches : Cursor.Reaches ⟨[','].intercalate (items.map Prod.fst) ++ rest, place⟩
      ⟨rest, place.after ([','].intercalate (items.map Prod.fst))⟩ :=
    ⟨_, rfl, rfl⟩
  rw [hread, (list_reaches hread).eq_of_ahead hreaches hd]

/-- A brace within a value, and a comma, a pipe and braces within quotes, divide nothing. -/
theorem list_spec_braces :
    Spells " a\x7db ".toList ⟨none, "a\x7db"⟩ ∧
      Spells "\tfind : \"x, \\\"y|\x7d\x7d\" ".toList ⟨some "find", "x, \\\"y|\x7d\x7d"⟩ ∧
      Closes "\x7d\x7d </p>".toList ∧
      list (Cursor.ofString " a\x7db ,\tfind : \"x, \\\"y|\x7d\x7d\" \x7d\x7d </p>") =
        .ok ([⟨none, "a\x7db"⟩, ⟨some "find", "x, \\\"y|\x7d\x7d"⟩],
          ⟨"\x7d\x7d </p>".toList, 1, 26⟩) := by
  have hblank : ∀ x ∈ [' '], Text.isBlank x = true := by simp [Text.isBlank]
  have htab : ∀ x ∈ ['\t'], Text.isBlank x = true := by simp [Text.isBlank]
  have hfirst : Spells " a\x7db ".toList ⟨none, "a\x7db"⟩ :=
    @Spells.bare "a\x7db" [' '] [' '] hblank (by decide) (by decide) hblank
  have hsecond : Spells "\tfind : \"x, \\\"y|\x7d\x7d\" ".toList
      ⟨some "find", "x, \\\"y|\x7d\x7d"⟩ :=
    @Spells.labelled "find" "x, \\\"y|\x7d\x7d" ['\t'] [' '] [' '] _ [' '] htab
      (isName_cons rfl rfl) hblank hblank (.quoted (by decide)) hblank
  have hrest : Closes "\x7d\x7d </p>".toList := by decide
  have hitems : ∀ item ∈ [(" a\x7db ".toList, (⟨none, "a\x7db"⟩ : Argument)),
      ("\tfind : \"x, \\\"y|\x7d\x7d\" ".toList, ⟨some "find", "x, \\\"y|\x7d\x7d"⟩)],
      Spells item.1 item.2 :=
    List.forall_mem_cons.mpr ⟨hfirst, List.forall_mem_singleton.mpr hsecond⟩
  exact ⟨hfirst, hsecond, hrest, list_spec (List.cons_ne_nil _ _) hitems hrest Position.start⟩

end StaticPages.Filter.Argument
