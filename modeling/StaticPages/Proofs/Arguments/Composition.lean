import StaticPages.Proofs.Arguments.Spelling

namespace StaticPages.Arguments

/-- The text of an item that belongs to no flag. -/
def Item.text? : Item → Option String
  | .positional text => some text
  | .flag _ _ => none

/-- Whether a token is the flag of a switch: two dashes and its name. -/
def IsSwitch (switches : List String) (token : String) : Prop :=
  ∃ body, token.toList = '-' :: '-' :: body ∧ '=' ∉ body ∧
    String.ofList (Text.trimChars body) ∈ switches

theorem IsSwitch.not_waits {switches : List String} {token : String}
    (h : IsSwitch switches token) : ¬ Waits switches token := by
  obtain ⟨body, hcs, -, hmem⟩ := h
  rintro ⟨other, hother, -, -, hnot⟩
  cases hcs.symm.trans hother
  exact hnot hmem

theorem positional_foldl (its : List Item) (start : Arguments) :
    (its.foldl note start).positional = start.positional ++ its.filterMap Item.text? := by
  induction its generalizing start with
  | nil => simp
  | cons item rest ih =>
    rw [List.foldl_cons, ih]
    cases item with
    | positional text => simp [note, Item.text?]
    | flag name value => rw [note, List.filterMap_cons_none rfl]

theorem positional_parse (switches tokens : List String) :
    (parse switches tokens).positional = (items switches tokens).filterMap Item.text? := by
  rw [parse, positional_foldl, List.nil_append]

theorem positional_of_parted {switches before after : List String}
    (h : Parted switches before after) :
    (parse switches (before ++ after)).positional =
      (parse switches before).positional ++ (parse switches after).positional := by
  simp only [positional_parse, items_append_of_parted h, List.filterMap_append]

/-- Whether a command line does not end in a flag that waits for its value. -/
def Closed (switches tokens : List String) : Prop :=
  ∀ token, tokens.getLast? = some token → ¬ Waits switches token

theorem Closed.parted {switches before : List String} (h : Closed switches before)
    (after : List String) : Parted switches before after :=
  fun token htoken hwaits => absurd hwaits (h token htoken)

theorem closed_of_isSwitch {switches : List String} {token : String}
    (h : IsSwitch switches token) : Closed switches [token] := by
  intro last hlast
  cases hlast
  exact h.not_waits

theorem longForm_ne_positional (body : List Char) (text : String) :
    longForm body ≠ .positional text := by
  unfold longForm
  dsimp only
  split
  · nofun
  · split <;> nofun

theorem positional_of_isSwitch {switches : List String} {token : String}
    (h : IsSwitch switches token) : (parse switches [token]).positional = [] := by
  obtain ⟨body, hcs, -, -⟩ := h
  have hform : form token = longForm body := by simp only [form, hcs]
  rw [positional_parse, items, hform]
  split
  · rfl
  · next text htext => exact absurd htext (longForm_ne_positional body text)
  · rfl
  · rfl
  · rfl

/-- The first word behind a flag that waits is taken as its value. -/
theorem positional_of_waits {switches before : List String} {token : String}
    (h : Waits switches token) {value : String} (hvalue : isValue value = true) :
    (parse switches (before ++ [token] ++ [value])).positional =
      (parse switches (before ++ [token])).positional := by
  obtain ⟨name, hform, hswitch⟩ := waits_iff_form.mp h
  have hdash : isValue token = false := by
    obtain ⟨body, hcs, -⟩ := h
    exact isValue_of_dash hcs
  have htaken : items switches [token, value] = [.flag name (some value)] := by
    rw [items, hform]
    simp [hswitch, hvalue, items]
  have halone : items switches [token] = [.flag name none] := by rw [items, hform]
  rw [List.append_assoc, List.singleton_append, positional_parse, positional_parse,
    items_append switches before _ hdash, items_append switches before _ hdash, htaken, halone,
    List.filterMap_append, List.filterMap_append]
  rfl

/-- The words and the flags of two command lines after each other are those of each. The
    words are so whatever follows exactly if the first does not end in a flag that waits for
    its value, and a switch in such a place makes no difference to them. -/
theorem positional_append_spec (switches before : List String) :
    ((∀ after, (parse switches (before ++ after)).positional =
          (parse switches before).positional ++ (parse switches after).positional) ↔
        Closed switches before) ∧
      (∀ after name, (parse switches (before ++ after)).flags.has name = true ↔
        (parse switches before).flags.has name = true ∨
          (parse switches after).flags.has name = true) ∧
      (Closed switches before → ∀ token after, IsSwitch switches token →
        (parse switches (before ++ token :: after)).positional =
          (parse switches (before ++ after)).positional) := by
  refine ⟨⟨fun h token hlast hwaits => ?_, fun h after => positional_of_parted (h.parted after)⟩,
    fun after name => ?_, fun h token after hswitch => ?_⟩
  · obtain ⟨init, rfl⟩ := List.getLast?_eq_some_iff.mp hlast
    have hvalue : isValue "x" = true := by decide
    have htaken : (parse switches (init ++ [token] ++ ["x"])).positional =
        (parse switches (init ++ [token])).positional := positional_of_waits hwaits hvalue
    rw [h ["x"]] at htaken
    have hword : (parse switches ["x"]).positional = ["x"] := rfl
    rw [hword] at htaken
    simp at htaken
  · simp only [has_parse_iff, List.mem_append, or_and_right, exists_or, and_or_left]
  · have hrest := positional_of_parted ((closed_of_isSwitch hswitch).parted after)
    rw [positional_of_isSwitch hswitch, List.nil_append] at hrest
    rw [positional_of_parted (h.parted _), positional_of_parted (h.parted _), ← hrest]
    rfl

/-- A switch between the value of a flag and a word leaves both where they are. -/
theorem positional_append_spec_switch :
    Closed ["stdout"] ["render", "--out", "public"] ∧ IsSwitch ["stdout"] "--stdout" ∧
      (parse ["stdout"] (["render", "--out", "public"] ++ "--stdout" :: ["post.md"])).positional =
        (parse ["stdout"] (["render", "--out", "public"] ++ ["post.md"])).positional ∧
      (parse ["stdout"] (["render", "--out", "public"] ++ ["post.md"])).positional =
        ["render", "post.md"] := by
  have hclosed : Closed ["stdout"] ["render", "--out", "public"] := by
    rintro token hlast ⟨body, hcs, -⟩
    cases hlast
    cases hcs
  have hswitch : IsSwitch ["stdout"] "--stdout" := ⟨"stdout".toList, rfl, by decide, by decide⟩
  obtain ⟨hwords, -, hinsert⟩ :=
    positional_append_spec ["stdout"] ["render", "--out", "public"]
  refine ⟨hclosed, hswitch, hinsert hclosed "--stdout" ["post.md"] hswitch, ?_⟩
  rw [hwords.mpr hclosed ["post.md"]]
  rfl

end StaticPages.Arguments
