import StaticPages.Proofs.Arguments.Flags
import StaticPages.Proofs.Text.Space
import Mathlib.Data.List.TakeWhile

namespace StaticPages.Arguments

/-- The flag that a token gives. -/
def Form.flag? : Form → Option String
  | .short name => some name
  | .long name _ => some name
  | _ => none

@[simp] theorem Form.flag?_ignored : Form.ignored.flag? = none := rfl

@[simp] theorem Form.flag?_positional (text : String) : (Form.positional text).flag? = none := rfl

@[simp] theorem Form.flag?_short (name : String) : (Form.short name).flag? = some name := rfl

@[simp] theorem Form.flag?_long (name : String) (value : Option String) :
    (Form.long name value).flag? = some name := rfl

/-- The flag that an item is an occurrence of. -/
def Item.flag? : Item → Option String
  | .flag name _ => some name
  | .positional _ => none

@[simp] theorem Item.flag?_flag (name : String) (value : Option String) :
    (Item.flag name value).flag? = some name := rfl

@[simp] theorem Item.flag?_positional (text : String) : (Item.positional text).flag? = none := rfl

/-- The value that an item gives to a flag. -/
def Item.valueOf? (name : String) : Item → Option String
  | .flag other (some value) => if other = name then some value else none
  | _ => none

@[simp] theorem Item.valueOf?_self (name : String) (value : Option String) :
    (Item.flag name value).valueOf? name = value := by
  cases value <;> simp [valueOf?]

theorem Item.valueOf?_of_ne {name other : String} (h : other ≠ name) (value : Option String) :
    (Item.flag other value).valueOf? name = none := by
  cases value <;> simp [valueOf?, h]

theorem form_of_isValue {token : String} (h : isValue token = true) :
    form token = .positional token := by
  unfold isValue at h
  unfold form
  cases hcs : token.toList with
  | nil => simp [hcs] at h
  | cons c cs =>
    have hne : c ≠ '-' := by simpa [hcs] using h
    split <;> simp_all

theorem isValue_of_dash {token : String} {cs : List Char} (h : token.toList = '-' :: cs) :
    isValue token = false := by
  simp [isValue, h]

/-- Whether a token is a flag that waits for its value: a name behind two dashes, without an
    equals sign, that is no switch. -/
def Waits (switches : List String) (token : String) : Prop :=
  ∃ body, token.toList = '-' :: '-' :: body ∧ '=' ∉ body ∧ Text.trimChars body ≠ [] ∧
    String.ofList (Text.trimChars body) ∉ switches

theorem dropWhile_equals_eq_nil_iff {body : List Char} :
    body.dropWhile (· != '=') = [] ↔ '=' ∉ body := by
  rw [List.dropWhile_eq_nil_iff]
  constructor
  · intro h hmem
    simpa using h '=' hmem
  · intro h c hc
    have hne : c ≠ '=' := fun heq => h (heq ▸ hc)
    simpa using hne

theorem longForm_eq_long_none_iff {body : List Char} {name : String} :
    longForm body = .long name none ↔
      '=' ∉ body ∧ Text.trimChars body ≠ [] ∧ String.ofList (Text.trimChars body) = name := by
  unfold longForm
  dsimp only
  constructor
  · intro h
    split at h
    · cases h
    · next hempty =>
      split at h
      · next hnone =>
        rw [List.takeWhile_eq_self_iff.mpr (List.dropWhile_eq_nil_iff.mp hnone)] at h hempty
        cases h
        exact ⟨dropWhile_equals_eq_nil_iff.mp hnone, by simpa using hempty, rfl⟩
      · cases h
  · rintro ⟨hequals, hne, rfl⟩
    have hnone := dropWhile_equals_eq_nil_iff.mpr hequals
    rw [List.takeWhile_eq_self_iff.mpr (List.dropWhile_eq_nil_iff.mp hnone), hnone]
    simp [hne]

theorem waits_iff_form {switches : List String} {token : String} :
    Waits switches token ↔ ∃ name, form token = .long name none ∧ name ∉ switches := by
  constructor
  · rintro ⟨body, hcs, hequals, hne, hswitch⟩
    refine ⟨_, ?_, hswitch⟩
    rw [form, hcs]
    exact longForm_eq_long_none_iff.mpr ⟨hequals, hne, rfl⟩
  · rintro ⟨name, hform, hswitch⟩
    unfold form at hform
    split at hform
    · cases hform
    · next body hcs =>
      obtain ⟨hequals, hne, rfl⟩ := longForm_eq_long_none_iff.mp hform
      exact ⟨body, hcs, hequals, hne, hswitch⟩
    · cases hform
    · cases hform

/-- Whether the last token of a command line leaves the first one behind it alone. -/
def Parted (switches before after : List String) : Prop :=
  ∀ token, before.getLast? = some token → Waits switches token →
    ∀ value, after.head? = some value → isValue value = false

theorem Parted.tail {switches later after : List String} {first : String}
    (h : Parted switches (first :: later) after) : Parted switches later after := by
  intro token htoken
  exact h token (by simp [List.getLast?_cons, htoken])

/-- The items of two command lines after each other, if the first takes no value from the
    second. -/
theorem items_append_of_parted {switches before after : List String}
    (h : Parted switches before after) :
    items switches (before ++ after) = items switches before ++ items switches after := by
  fun_induction items switches before with
  | case1 => rfl
  | case2 first later hform ih => rw [List.cons_append, items, hform, ih h.tail]
  | case3 first later text hform ih
  | case4 first later name hform ih
  | case5 first later name value hform ih =>
    rw [List.cons_append, items, hform]
    simp only [ih h.tail, List.cons_append]
  | case6 first name hform =>
    -- The flag at the end of `before` finds nothing to take.
    cases after with
    | nil => simp [items, hform]
    | cons value rest =>
      have hleft : ¬ (!switches.contains name && isValue value) = true := by
        intro htakes
        obtain ⟨hswitch, hvalue⟩ := Bool.and_eq_true_iff.mp htakes
        have hwaits := waits_iff_form.mpr ⟨name, hform, by simpa using hswitch⟩
        rw [h first rfl hwaits value rfl] at hvalue
        cases hvalue
      rw [List.cons_append, items, hform]
      simp only [List.nil_append, hleft, Bool.false_eq_true, if_false, List.cons_append]
  | case7 first name hform next later htakes ih =>
    rw [List.cons_append, items, hform]
    simp only [List.cons_append, htakes, if_true, ih h.tail.tail]
  | case8 first name hform next later htakes ih =>
    rw [List.cons_append, items, hform]
    have hlater := ih h.tail
    rw [List.cons_append] at hlater
    simp only [List.cons_append, htakes, Bool.false_eq_true, if_false, hlater]

/-- The items of a command line fall apart before every token that is no value. -/
theorem items_append (switches before : List String) {token : String} (rest : List String)
    (h : isValue token = false) :
    items switches (before ++ token :: rest) =
      items switches before ++ items switches (token :: rest) := by
  apply items_append_of_parted
  rintro _ _ _ value hvalue
  cases hvalue
  exact h

/-- Whatever is taken as a value, the flags of a command line are those that its tokens
    give one by one. -/
theorem filterMap_flag?_items (switches tokens : List String) :
    (items switches tokens).filterMap Item.flag? =
      tokens.filterMap fun token => (form token).flag? := by
  fun_induction items switches tokens with
  | case1 => rfl
  | case2 token rest hform ih
  | case3 token rest text hform ih
  | case4 token rest name hform ih
  | case5 token rest name value hform ih => simp [List.filterMap_cons, hform, ih]
  | case6 token name hform => simp [hform]
  | case7 token name hform next later htakes ih =>
    have hnext : form next = .positional next :=
      form_of_isValue (Bool.and_eq_true_iff.mp htakes).2
    simp [hform, hnext, ih]
  | case8 token name hform next later htakes ih =>
    rw [List.filterMap_cons_some (Item.flag?_flag name none), ih, List.filterMap_cons (a := token),
      hform, Form.flag?_long]

theorem parse_append (switches before : List String) {token : String} (rest : List String)
    (h : isValue token = false) :
    parse switches (before ++ token :: rest) =
      (items switches (token :: rest)).foldl note (parse switches before) := by
  rw [parse, items_append switches before rest h, List.foldl_append, parse]

theorem allGiven_foldl (its : List Item) {start : Arguments} (h : start.flags.AllGiven) :
    (its.foldl note start).flags.AllGiven := by
  induction its generalizing start with
  | nil => exact h
  | cons item rest ih =>
    cases item with
    | positional text => exact ih h
    | flag name value => exact ih (h.add name value)

theorem allGiven_parse (switches tokens : List String) :
    (parse switches tokens).flags.AllGiven :=
  allGiven_foldl _ nofun

theorem isSome_lookup_foldl (its : List Item) (start : Arguments) (name : String) :
    ((its.foldl note start).flags.lookup name).isSome = true ↔
      (start.flags.lookup name).isSome = true ∨
        name ∉ Flags.reserved ∧ some name ∈ its.map Item.flag? := by
  induction its generalizing start with
  | nil => simp
  | cons item rest ih =>
    rw [List.foldl_cons, ih]
    cases item with
    | positional text => simp [note]
    | flag other value =>
      simp only [note, Flags.lookup_add, List.map_cons, List.mem_cons,
        Item.flag?_flag, Option.some.injEq]
      split
      · next h => simp [h.1, h.2]
      · next h => grind

/-- A flag counts as given if one of the tokens gives it, in whichever spelling. -/
theorem has_parse_iff (switches tokens : List String) (name : String) :
    (parse switches tokens).flags.has name = true ↔
      name ∉ Flags.reserved ∧ ∃ token ∈ tokens, (form token).flag? = some name := by
  rw [(allGiven_parse switches tokens).has_iff, parse, isSome_lookup_foldl, ← List.mem_filterMap,
    ← filterMap_flag?_items switches tokens, List.mem_filterMap, List.mem_map]
  simp

/-- Once a flag has a value, all of its later values are kept in their order. -/
theorem values_foldl (its : List Item) {start : Arguments} {name : String}
    (hname : name ∉ Flags.reserved) (hvalues : start.flags.values name ≠ []) :
    (its.foldl note start).flags.values name =
      start.flags.values name ++ its.filterMap (Item.valueOf? name) := by
  induction its generalizing start with
  | nil => simp
  | cons item rest ih =>
    cases item with
    | positional text => exact ih hvalues
    | flag other value =>
      rw [List.foldl_cons]
      by_cases h : other = name
      · subst h
        have hadded := Flags.values_add_of_ne_nil hname hvalues value
        rw [ih (by simp [note, hadded, hvalues]), note, hadded, List.append_assoc]
        cases value <;> simp
      · have hadded := Flags.values_add_of_ne start.flags (Ne.symm h) value
        rw [ih (by simp [note, hadded, hvalues]), note, hadded,
          List.filterMap_cons_none (Item.valueOf?_of_ne h value)]

/-- Whether a token names a flag: behind two dashes, up to an equals sign and trimmed, or
    as all that stands behind one dash. -/
def Names (name token : String) : Prop :=
  name ≠ "" ∧
    ((∃ body, token.toList = '-' :: '-' :: body ∧
        Text.trimChars (body.takeWhile (· != '=')) = name.toList) ∨
      token.toList = '-' :: name.toList ∧ name.toList.head? ≠ some '-')

theorem longForm_flag?_eq_some_iff {body : List Char} {name : String} :
    (longForm body).flag? = some name ↔
      name ≠ "" ∧ Text.trimChars (body.takeWhile (· != '=')) = name.toList := by
  unfold longForm
  dsimp only
  split
  · next hempty =>
    rw [List.isEmpty_iff.mp hempty, Form.flag?_ignored]
    constructor
    · intro hnone
      cases hnone
    · rintro ⟨hne, hnil⟩
      exact absurd (String.toList_eq_nil_iff.mp hnil.symm) hne
  · next hchars =>
    have hne : Text.trimChars (body.takeWhile (· != '=')) = name.toList → name ≠ "" := by
      rintro htrim rfl
      simp [htrim] at hchars
    split <;>
      rw [Form.flag?_long, Option.some.injEq, ← String.toList_inj, String.toList_ofList,
        and_iff_right_of_imp hne]

theorem form_flag?_eq_some_iff {token name : String} :
    (form token).flag? = some name ↔ Names name token := by
  unfold form Names
  split
  · next hcs => simp [hcs]
  · next body hcs =>
    have hother : ¬ ('-' :: '-' :: body = '-' :: name.toList ∧ name.toList.head? ≠ some '-') := by
      rintro ⟨heq, hdash⟩
      rw [← (List.cons.inj heq).2] at hdash
      exact hdash rfl
    rw [longForm_flag?_eq_some_iff, hcs, or_iff_left hother]
    simp
  · next c rest hshort hcs =>
    rw [Form.flag?_short, Option.some.injEq, ← String.toList_inj, String.toList_ofList, hcs]
    constructor
    · intro hname
      refine ⟨?_, .inr ⟨by rw [hname], by simpa [← hname] using hshort⟩⟩
      rintro rfl
      cases hname
    · rintro ⟨-, ⟨body, heq, -⟩ | ⟨heq, -⟩⟩
      · exact absurd (List.cons.inj (List.cons.inj heq).2).1 hshort
      · exact (List.cons.inj heq).2
  · next hempty hlong hshort =>
    have hnone : ∀ cs, token.toList = '-' :: cs → cs = [] := by
      intro cs hcs
      cases cs with
      | nil => rfl
      | cons c rest => exact absurd hcs (hshort c rest)
    rw [Form.flag?_positional]
    constructor
    · intro hfalse
      cases hfalse
    · rintro ⟨hne, ⟨body, hcs, -⟩ | ⟨hcs, -⟩⟩
      · exact absurd (hnone _ hcs) (List.cons_ne_nil _ _)
      · exact absurd (String.toList_eq_nil_iff.mp (hnone _ hcs)) hne

/-- What a value keeps if it is joined to its flag: what stands before an equals sign. -/
def upToEquals (value : String) : String :=
  String.ofList (value.toList.takeWhile (· != '='))

theorem upToEquals_eq_self_iff (value : String) :
    upToEquals value = value ↔ '=' ∉ value.toList := by
  have hself : upToEquals value = value ↔
      value.toList.takeWhile (· != '=') = value.toList := by
    rw [upToEquals, ← String.toList_inj, String.toList_ofList]
  rw [hself, List.takeWhile_eq_self_iff]
  constructor
  · intro h hmem
    simpa using h '=' hmem
  · intro h c hc
    have hne : c ≠ '=' := fun heq => h (heq ▸ hc)
    simpa using hne

section

variable {switches : List String} {key : String}

theorem longForm_of_name (hne : key ≠ "") (htrim : Text.trim key = key)
    (hname : '=' ∉ key.toList) {rest : List Char} (hrest : Text.Stops (· != '=') rest) :
    longForm (key.toList ++ rest) =
      .long key (rest.tail?.map fun value => String.ofList (value.takeWhile (· != '='))) := by
  have hplain : ∀ c ∈ key.toList, (c != '=') = true := by
    intro c hc
    have hc' : c ≠ '=' := fun heq => hname (heq ▸ hc)
    simpa using hc'
  have hchars : Text.trimChars key.toList = key.toList := by
    rw [← String.toList_ofList (l := Text.trimChars key.toList)]
    exact congrArg String.toList htrim
  have hnotEmpty : key.toList.isEmpty = false := by
    simpa [String.toList_eq_nil_iff] using hne
  unfold longForm
  rw [Text.takeWhile_append_of_stops hplain hrest, Text.dropWhile_append_of_stops hplain hrest,
    hchars]
  simp only [hnotEmpty, Bool.false_eq_true, if_false, String.ofList_toList]
  cases rest <;> rfl

theorem toList_dashes (body : String) : ("--" ++ body).toList = '-' :: '-' :: body.toList := by
  simp

/-- A flag and its value as two tokens make one item with the whole value. -/
theorem items_separate (hne : key ≠ "") (htrim : Text.trim key = key)
    (hname : '=' ∉ key.toList) (hswitch : key ∉ switches) {value : String}
    (hvalue : isValue value = true) (rest : List String) :
    items switches (("--" ++ key) :: value :: rest) =
      .flag key (some value) :: items switches rest := by
  have hform : form ("--" ++ key) = .long key none := by
    have hlong := longForm_of_name hne htrim hname (Text.stops_nil _)
    rw [List.append_nil] at hlong
    rw [form, toList_dashes]
    exact hlong
  rw [items, hform]
  simp [hswitch, hvalue]

/-- A flag and its value as one token make one item with the value up to an equals sign. -/
theorem items_joined (hne : key ≠ "") (htrim : Text.trim key = key)
    (hname : '=' ∉ key.toList) (value : String) (rest : List String) :
    items switches (("--" ++ key ++ "=" ++ value) :: rest) =
      .flag key (some (upToEquals value)) :: items switches rest := by
  have hform : form ("--" ++ key ++ "=" ++ value) = .long key (some (upToEquals value)) := by
    have hlong := longForm_of_name hne htrim hname
      (show Text.Stops (· != '=') ('=' :: value.toList) by simp)
    rw [String.append_assoc, String.append_assoc, form, toList_dashes]
    simpa [upToEquals] using hlong
  rw [items, hform]

/-- Two values of one flag make no difference only where neither of them is kept. -/
theorem foldl_note_eq_iff (its : List Item) {parsed : Arguments}
    (hgiven : parsed.flags.AllGiven) (key a b : String) :
    its.foldl note (note parsed (.flag key (some a))) =
        its.foldl note (note parsed (.flag key (some b))) ↔
      a = b ∨ key ∈ Flags.reserved ∨ parsed.flags.lookup key = some .present := by
  constructor
  · intro heq
    by_contra hnot
    obtain ⟨hab, hreserved, hpresent⟩ : a ≠ b ∧ key ∉ Flags.reserved ∧
        parsed.flags.lookup key ≠ some .present := by simpa using hnot
    have hkept (text : String) :
        (its.foldl note (note parsed (.flag key (some text)))).flags.values key =
          parsed.flags.values key ++ [text] ++ its.filterMap (Item.valueOf? key) := by
      have hadded := Flags.values_add_of_given hreserved hgiven hpresent text
      rw [values_foldl its hreserved (by simp [note, hadded]), note, hadded]
    have hvalues := congrArg (fun parsed => parsed.flags.values key) heq
    simp only [hkept, List.append_assoc, List.append_cancel_left_eq, List.cons_append,
      List.cons.injEq] at hvalues
    exact hab hvalues.1
  · rintro (rfl | hreserved | hpresent)
    · rfl
    · simp only [note, Flags.add_eq, hreserved, if_true]
    · simp only [note, Flags.add_of_present hpresent]

/-- A value reads the same joined to its flag as in a token of its own exactly if it holds
    no equals sign, or the flag keeps no value there at all. As a token of its own it is
    taken whole; joined to its flag it ends at its first equals sign. -/
theorem spellings_spec (before after : List String) {value : String} (hne : key ≠ "")
    (htrim : Text.trim key = key) (hname : '=' ∉ key.toList) (hswitch : key ∉ switches)
    (hvalue : isValue value = true) :
    items switches (before ++ [("--" ++ key), value] ++ after) =
        items switches before ++ .flag key (some value) :: items switches after ∧
      items switches (before ++ [("--" ++ key ++ "=" ++ value)] ++ after) =
        items switches before ++ .flag key (some (upToEquals value)) :: items switches after ∧
      (parse switches (before ++ [("--" ++ key ++ "=" ++ value)] ++ after) =
          parse switches (before ++ [("--" ++ key), value] ++ after) ↔
        '=' ∉ value.toList ∨ key ∈ Flags.reserved ∨
          (parse switches before).flags.lookup key = some .present) := by
  have hseparate : isValue ("--" ++ key) = false := isValue_of_dash (toList_dashes key)
  have hjoined : isValue ("--" ++ key ++ "=" ++ value) = false := by
    rw [String.append_assoc, String.append_assoc]
    exact isValue_of_dash (toList_dashes _)
  simp only [List.append_assoc, List.cons_append, List.nil_append]
  refine ⟨?_, ?_, ?_⟩
  · rw [items_append switches before _ hseparate,
      items_separate hne htrim hname hswitch hvalue]
  · rw [items_append switches before _ hjoined, items_joined hne htrim hname]
  · rw [parse_append switches before _ hseparate, parse_append switches before _ hjoined,
      items_separate hne htrim hname hswitch hvalue, items_joined hne htrim hname,
      List.foldl_cons, List.foldl_cons, foldl_note_eq_iff _ (allGiven_parse switches before),
      upToEquals_eq_self_iff]

/-- A file name with an equals sign is cut off if it is joined to its flag. -/
theorem spellings_spec_equals :
    ("template" ≠ "" ∧ Text.trim "template" = "template" ∧ '=' ∉ "template".toList ∧
        "template" ∉ ["json"] ∧ isValue "a=b.html" = true) ∧
      parse ["json"] ["render", "--tag", "x", "--template=a=b.html", "--json"] ≠
        parse ["json"] ["render", "--tag", "x", "--template", "a=b.html", "--json"] ∧
      (parse ["json"] ["render", "--tag", "x", "--template=a=b.html", "--json"]).flags.values
        "template" = ["a"] := by
  have hne : "template" ≠ "" := by decide
  have htrim : Text.trim "template" = "template" := by decide
  have hname : '=' ∉ "template".toList := by decide
  have hswitch : "template" ∉ ["json"] := by decide
  have hvalue : isValue "a=b.html" = true := by decide
  have hspec := spellings_spec ["render", "--tag", "x"] ["--json"] hne htrim hname hswitch hvalue
  have hdiffers := hspec.2.2.not.mpr (by decide)
  exact ⟨⟨hne, htrim, hname, hswitch, hvalue⟩, hdiffers, by decide⟩

end

end StaticPages.Arguments
