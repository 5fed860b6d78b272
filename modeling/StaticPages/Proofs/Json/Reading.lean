import StaticPages.Json.Parser
import StaticPages.Proofs.Json.Escape
import StaticPages.Proofs.Text.Units

namespace StaticPages.Json

section Text

theorem unicodeEscape_eq : ∀ n < 0x20,
    unicodeEscape n = ['\\', 'u', '0', '0', Nat.digitChar (n / 16), Nat.digitChar (n % 16)] ∧
      hexCode? '0' '0' (Nat.digitChar (n / 16)) (Nat.digitChar (n % 16)) = some n := by
  decide

theorem stringCodes_of_not_escaped {c : Char} (h : ¬ Escaped c) (rest : List Char) :
    stringCodes (c :: rest) =
      (stringCodes rest).map fun (codes, after) => (c.toNat :: codes, after) := by
  simp only [Escaped, not_or] at h
  obtain ⟨hquote, hslash, hcontrol⟩ := h
  have hplain : (decide (c.toNat < 0x20) || c == '\\') = false := by simp [hslash, hcontrol]
  rw [stringCodes.eq_def]
  split
  · next heq => cases heq
  · next heq =>
    cases heq
    exact absurd rfl hquote
  iterate 2
    · next heq =>
      cases heq
      exact absurd rfl hslash
  · next heq =>
    cases heq
    rw [hplain, if_neg Bool.false_ne_true]

/-- A character is read from its escaped form as its code. -/
theorem stringCodes_escape (c : Char) (rest : List Char) :
    stringCodes (escape c ++ rest) =
      (stringCodes rest).map fun (codes, after) => (c.toNat :: codes, after) := by
  by_cases h : Escaped c
  · unfold escape
    split
    iterate 7 rfl
    · next hquote hslash _ _ _ _ _ =>
      have hcontrol := toNat_lt_of_escaped h hquote hslash
      obtain ⟨hescape, hcode⟩ := unicodeEscape_eq c.toNat hcontrol
      rw [if_pos hcontrol, hescape]
      simp only [List.cons_append, List.nil_append, stringCodes, hcode]
  · rw [escape_of_not_escaped h]
    exact stringCodes_of_not_escaped h rest

theorem stringCodes_flatMap_escape (text rest : List Char) :
    stringCodes (text.flatMap escape ++ '"' :: rest) = some (text.map Char.toNat, rest) := by
  induction text with
  | nil => rfl
  | cons c text ih => rw [List.flatMap_cons, List.append_assoc, stringCodes_escape, ih]; rfl

theorem ofUnits_map_toNat (text : List Char) : Text.ofUnits (text.map Char.toNat) = text := by
  induction text with
  | nil => rfl
  | cons c text ih => rw [List.map_cons, Text.ofUnits_toNat_cons, ih]

theorem toList_quote (text : String) :
    (quote text).toList = '"' :: (text.toList.flatMap escape ++ ['"']) := by
  rw [quote, String.toList_ofList]

/-- A text is read back from its quoted form. -/
theorem stringBody_flatMap_escape (text : String) (rest : List Char) :
    stringBody (text.toList.flatMap escape ++ '"' :: rest) = some (text, rest) := by
  rw [stringBody, stringCodes_flatMap_escape, Option.map_some]
  dsimp only
  rw [ofUnits_map_toNat, String.ofList_toList]

end Text

section Fields

theorem setField_of_not_mem {fields : List (String × Json)} {key : String} (value : Json)
    (h : key ∉ fields.map Prod.fst) : setField fields key value = fields ++ [(key, value)] := by
  induction fields with
  | nil => rfl
  | cons field fields ih =>
    obtain ⟨other, old⟩ := field
    rw [List.map_cons, List.mem_cons, not_or] at h
    have hne : (other == key) = false := beq_false_of_ne (Ne.symm h.1)
    rw [setField, hne, if_neg Bool.false_ne_true, ih h.2, List.cons_append]

/-- Fields with different keys are set one behind another. -/
theorem foldl_setField (fields done : List (String × Json))
    (h : ((done ++ fields).map Prod.fst).Nodup) :
    fields.foldl (fun all (key, value) => setField all key value) done = done ++ fields := by
  induction fields generalizing done with
  | nil => simp
  | cons field fields ih =>
    obtain ⟨key, value⟩ := field
    have hfresh : key ∉ done.map Prod.fst := by
      rw [List.map_append, List.nodup_append] at h
      exact fun hmem => h.2.2 key hmem key List.mem_cons_self rfl
    rw [List.foldl_cons]
    dsimp only
    rw [setField_of_not_mem value hfresh, ih _ (by simpa using h), List.append_assoc,
      List.singleton_append]

end Fields

/-- Whether a value consists of booleans, texts and objects in which no key stands twice. -/
inductive Plain : Json → Prop where
  | bool (value : Bool) : Plain (.bool value)
  | string (value : String) : Plain (.string value)
  | object {fields : List (String × Json)} (distinct : (fields.map Prod.fst).Nodup)
      (plain : ∀ field ∈ fields, Plain field.2) : Plain (.object fields)

/-- Whether a value is read back from its compact form, whatever text follows. -/
def ReadsBack (value : Json) : Prop :=
  ∀ steps rest, (compact value).length ≤ steps →
    value? steps ((compact value).toList ++ rest) = some (value, rest)

theorem skipGap_cons {c : Char} (h : isGap c = false) (rest : List Char) :
    skipGap (c :: rest) = c :: rest := by
  rw [skipGap, List.dropWhile_cons_of_neg (by simp [h])]

theorem readsBack_bool (value : Bool) : ReadsBack (.bool value) := by
  intro steps rest hsteps
  cases steps with
  | zero => cases value <;> cases hsteps
  | succ steps => cases value <;> rfl

theorem readsBack_string (value : String) : ReadsBack (.string value) := by
  intro steps rest hsteps
  rw [compact] at hsteps ⊢
  cases steps with
  | zero => simp [quote] at hsteps
  | succ steps =>
    rw [toList_quote, List.cons_append, List.append_assoc, List.singleton_append, value?,
      skipGap_cons rfl]
    simp only [stringBody_flatMap_escape, Option.map_some]

/-- A key and its value, as they stand in an object. -/
def fieldText (key : String) (value : Json) : String :=
  quote key ++ ":" ++ compact value

/-- The fields of an object without its braces. -/
def fieldsText (fields : List (String × Json)) : String :=
  ",".intercalate (compactFields fields)

theorem toList_compact_object (fields : List (String × Json)) (rest : List Char) :
    (compact (.object fields)).toList ++ rest =
      '\x7b' :: ((fieldsText fields).toList ++ '\x7d' :: rest) := by
  simp [compact, fieldsText]

section Object

variable {key : String} {value : Json} {field : String × Json} {fields : List (String × Json)}
  {steps : Nat}

theorem fieldsText_singleton : fieldsText [(key, value)] = fieldText key value := by
  rw [fieldsText, compactFields, compactFields, String.intercalate_singleton, fieldText]

theorem fieldsText_cons_cons : fieldsText ((key, value) :: field :: fields) =
    fieldText key value ++ "," ++ fieldsText (field :: fields) := by
  obtain ⟨other, old⟩ := field
  rw [fieldsText, fieldsText, compactFields, compactFields, String.intercalate_cons_cons,
    fieldText]

theorem toList_fieldText (key : String) (value : Json) (rest : List Char) :
    (fieldText key value).toList ++ rest =
      '"' :: (key.toList.flatMap escape ++ '"' :: ':' :: ((compact value).toList ++ rest)) := by
  simp [fieldText, toList_quote]

theorem length_lt_fieldText (key : String) (value : Json) :
    (compact value).length < (fieldText key value).length := by
  have htext := congrArg List.length (toList_fieldText key value [])
  simp only [List.length_append, List.length_cons, List.length_nil, String.length_toList] at htext
  omega

theorem fields?_last (h : ReadsBack value) (hsteps : (compact value).length ≤ steps)
    (rest : List Char) :
    fields? (steps + 1) ((fieldText key value).toList ++ '\x7d' :: rest) =
      some ([(key, value)], rest) := by
  rw [toList_fieldText, fields?, skipGap_cons rfl]
  simp only [stringBody_flatMap_escape, skipGap_cons (c := ':') rfl, h steps _ hsteps,
    skipGap_cons (c := '\x7d') rfl]

theorem fields?_cons (h : ReadsBack value) (hsteps : (compact value).length ≤ steps)
    {next rest : List Char} (hnext : fields? steps next = some (fields, rest)) :
    fields? (steps + 1) ((fieldText key value).toList ++ ',' :: next) =
      some ((key, value) :: fields, rest) := by
  rw [toList_fieldText, fields?, skipGap_cons rfl]
  simp only [stringBody_flatMap_escape, skipGap_cons (c := ':') rfl, h steps _ hsteps,
    skipGap_cons (c := ',') rfl, hnext, Option.map_some]

/-- Fields are read back up to the closing brace. -/
theorem fields?_fieldsText (hne : fields ≠ []) (h : ∀ field ∈ fields, ReadsBack field.2)
    (hsteps : (fieldsText fields).length < steps) (rest : List Char) :
    fields? steps ((fieldsText fields).toList ++ '\x7d' :: rest) = some (fields, rest) := by
  induction fields generalizing steps with
  | nil => exact absurd rfl hne
  | cons field fields ih =>
    obtain ⟨key, value⟩ := field
    have hvalue : ReadsBack value := h _ List.mem_cons_self
    obtain ⟨steps, rfl⟩ := Nat.exists_eq_add_one_of_ne_zero (Nat.ne_zero_of_lt hsteps)
    have hshorter := length_lt_fieldText key value
    cases fields with
    | nil =>
      rw [fieldsText_singleton] at hsteps ⊢
      exact fields?_last hvalue (by omega) rest
    | cons second fields =>
      rw [fieldsText_cons_cons] at hsteps ⊢
      simp only [String.length_append] at hsteps
      have hnext : fields? steps ((fieldsText (second :: fields)).toList ++ '\x7d' :: rest) =
          some (second :: fields, rest) :=
        ih (List.cons_ne_nil _ _) (fun field hfield => h field (.tail _ hfield)) (by omega)
      rw [String.toList_append, String.toList_append, List.append_assoc, List.append_assoc]
      exact fields?_cons hvalue (by omega) hnext

theorem exists_fieldsText_cons (field : String × Json) (fields : List (String × Json)) :
    ∃ more, (fieldsText (field :: fields)).toList = '"' :: more := by
  obtain ⟨key, value⟩ := field
  cases fields with
  | nil => simp [fieldsText_singleton, fieldText, toList_quote]
  | cons second fields => simp [fieldsText_cons_cons, fieldText, toList_quote]

theorem readsBack_object (hdistinct : (fields.map Prod.fst).Nodup)
    (h : ∀ field ∈ fields, ReadsBack field.2) : ReadsBack (.object fields) := by
  intro steps rest hsteps
  have hlength := congrArg List.length (toList_compact_object fields [])
  simp only [List.length_append, List.length_cons, List.length_nil, String.length_toList] at hlength
  obtain ⟨steps, rfl⟩ : ∃ n, steps = n + 1 := ⟨steps - 1, by omega⟩
  rw [toList_compact_object, value?, skipGap_cons rfl]
  cases fields with
  | nil => rfl
  | cons field fields =>
    have hfields : fields? steps ((fieldsText (field :: fields)).toList ++ '\x7d' :: rest) =
        some (field :: fields, rest) :=
      fields?_fieldsText (List.cons_ne_nil field fields) h (by omega) rest
    obtain ⟨more, hmore⟩ := exists_fieldsText_cons field fields
    rw [hmore, List.cons_append] at hfields ⊢
    simp only [skipGap_cons (c := '"') rfl]
    change Option.map _ (fields? steps ('"' :: (more ++ '\x7d' :: rest))) = _
    rw [hfields, Option.map_some]
    exact congrArg (fun all => some (object all, rest)) (foldl_setField _ [] hdistinct)

end Object

/-- A value of booleans, texts and objects is read back from its compact form. -/
theorem Plain.readsBack {value : Json} (h : Plain value) : ReadsBack value := by
  induction h with
  | bool value => exact readsBack_bool value
  | string value => exact readsBack_string value
  | object distinct _ ih => exact readsBack_object distinct ih

theorem Plain.parse?_compact {value : Json} (h : Plain value) :
    parse? (compact value) = some value := by
  have hread := h.readsBack (2 * (compact value).length + 2) [] (by omega)
  rw [List.append_nil] at hread
  rw [parse?, hread]
  rfl

end StaticPages.Json
