import StaticPages.Filter.Parser
import StaticPages.Proofs.Decimal
import StaticPages.Proofs.Filter.Argument

namespace StaticPages.Filter

open Token

theorem Name.ofText?_toText (name : Name) : Name.ofText? name.toText = some name := by
  cases name <;> decide

theorem Name.isName_toText (name : Name) : IsName name.toText.toList := by
  cases name <;> exact isName_cons rfl rfl

theorem Name.isName_of_mem_parameters {name : Name} {label : String}
    (h : label ∈ name.parameters) : IsName label.toList := by
  have hlabels : label ∈ ["precision", "case", "find", "replacement", "limit", "characters",
      "trail"] := by
    cases name <;>
      simp only [parameters, List.mem_cons, List.not_mem_nil, or_false] at h ⊢ <;> grind
  simp only [List.mem_cons, List.not_mem_nil, or_false] at hlabels
  rcases hlabels with rfl | rfl | rfl | rfl | rfl | rfl | rfl <;>
    exact isName_cons rfl rfl

/-- Whether a name and arguments stand at the cursor, with the cursor behind them: an
    identifier, and a list if an equals sign follows it. -/
def IsWritten (c : Cursor) (written : String) (given : List Argument) (rest : Cursor) : Prop :=
  ∃ named, identifier c.skipBlanks = .ok (written, named) ∧ arguments named = .ok (given, rest)

theorem parse_eq_ok_iff {c d rest : Cursor} {written : String} {given : List Argument}
    {filter : Filter} (h : IsWritten c written given rest) :
    parse c = .ok (filter, d) ↔
      d = rest ∧ ∃ name, Name.ofText? written = some name ∧ name.apply given = .ok filter := by
  obtain ⟨named, hnamed, hgiven⟩ := h
  unfold parse
  simp only [hnamed]
  cases Name.ofText? written with
  | none => simp [Cursor.refuse]
  | some name =>
    simp only [hgiven]
    cases happly : name.apply given with
    | ok found => simp [happly, and_comm, eq_comm]
    | error p => simp [happly, Cursor.refuse]

theorem exists_isWritten_of_parse {c d : Cursor} {filter : Filter}
    (h : parse c = .ok (filter, d)) : ∃ written given, IsWritten c written given d := by
  unfold parse at h
  dsimp only at h
  split at h
  · cases h
  · next written named hnamed =>
    split at h
    · cases h
    · split at h
      · cases h
      · next given rest hgiven =>
        split at h
        · cases h
          exact ⟨written, given, named, hnamed, hgiven⟩
        · cases h

/-- A filter begins with its name, whatever blanks and arguments stand around it. -/
theorem exists_named {name : Name} {before rest : List Char} {c : Cursor}
    (h : c.ahead = before ++ (name.toText.toList ++ rest))
    (hbefore : ∀ x ∈ before, Text.isBlank x = true) (hrest : Text.Stops isNameChar rest) :
    Parser.Reads identifier c.skipBlanks name.toText rest := by
  have hstops : Text.Stops Text.isBlank (name.toText.toList ++ rest) := by
    cases name <;> exact Text.stops_cons.mpr rfl
  have hread := identifier_reads (Cursor.ahead_skipWhile h hbefore hstops) name.isName_toText hrest
  rwa [String.ofList_toList] at hread

/-- A filter without arguments is its name alone. What stands behind the name is left
    in place. -/
theorem parse_reads_name {name : Name} {filter : Filter} (happly : name.apply [] = .ok filter)
    {before after rest : List Char} {c : Cursor}
    (h : c.ahead = before ++ (name.toText.toList ++ (after ++ rest)))
    (hbefore : ∀ x ∈ before, Text.isBlank x = true)
    (hafter : ∀ x ∈ after, Text.isBlank x = true) (hrest : Argument.Ends rest) :
    Parser.Reads parse c filter (after ++ rest) := by
  have hstops : Text.Stops isNameChar (after ++ rest) :=
    Text.stops_append (fun x hx => isNameChar_of_isBlank (hafter x hx))
      (hrest.stops rfl rfl rfl rfl)
  obtain ⟨named, hnamed, hahead⟩ := exists_named h hbefore hstops
  have hskip : named.skipBlanks.ahead = rest :=
    Cursor.ahead_skipWhile hahead hafter hrest.stops_blank
  have hequals : named.skipBlanks.after? "=" = none := by
    rw [Cursor.after?_eq_none_iff, hskip]
    rintro others rfl
    exact hrest.head?_ne (by decide) rfl
  refine ⟨named, ?_, hahead⟩
  simp only [parse, hnamed, Name.ofText?_toText, arguments, hequals, happly]

/-- The arguments of a filter stand behind an equals sign. -/
theorem parse_reads_arguments {name : Name} {filter : Filter}
    {items : List (List Char × Argument)} (hne : items ≠ [])
    (hitems : ∀ item ∈ items, Argument.Writes item.1 item.2)
    (happly : name.apply (items.map Prod.snd) = .ok filter)
    {before after rest : List Char} {c : Cursor}
    (h : c.ahead = before ++ (name.toText.toList ++
      (' ' :: '=' :: ([','].intercalate (items.map Prod.fst) ++ (after ++ rest)))))
    (hbefore : ∀ x ∈ before, Text.isBlank x = true)
    (hafter : ∀ x ∈ after, Text.isBlank x = true) (hrest : Argument.Ends rest)
    (hcomma : rest.head? ≠ some ',') : Parser.Reads parse c filter rest := by
  obtain ⟨named, hnamed, hahead⟩ := exists_named h hbefore (Text.stops_cons.mpr rfl)
  have hskip : named.skipBlanks.ahead =
      '=' :: ([','].intercalate (items.map Prod.fst) ++ (after ++ rest)) := by
    rw [← List.singleton_append] at hahead
    exact Cursor.ahead_skipWhile hahead (by simp [Text.isBlank]) (Text.stops_cons.mpr rfl)
  obtain ⟨equals, hequals, hlist⟩ : ∃ d, named.skipBlanks.after? "=" = some d ∧
      d.ahead = [','].intercalate (items.map Prod.fst) ++ (after ++ rest) :=
    Cursor.exists_after? hskip
  obtain ⟨d, hd, hend⟩ := Argument.list_reads hne hitems hlist hafter hrest hcomma
  refine ⟨d, ?_, hend⟩
  simp only [parse, hnamed, Name.ofText?_toText, arguments, hequals, hd, happly]

/-- A value given to a parameter by its label. -/
def assign (given : String × String) : Argument :=
  ⟨some given.1, given.2⟩

theorem Name.bindLabelled_assign {name : Name} {bound given : Bindings}
    (hlabels : ∀ item ∈ given, item.1 ∈ name.parameters)
    (hnodup : ((bound ++ given).map Prod.fst).Nodup) :
    name.bindLabelled bound (given.map assign) = .ok (bound ++ given) := by
  induction given generalizing bound with
  | nil => simp [bindLabelled]
  | cons item more ih =>
    obtain ⟨label, value⟩ := item
    have hcontains : name.parameters.contains label = true := by
      simpa using hlabels (label, value) (by simp)
    have hfresh : bound.lookup label = none := by
      rw [List.lookup_eq_none_iff]
      intro other hother
      rw [List.map_append, List.nodup_append] at hnodup
      simpa using (hnodup.2.2 other.1 (by simpa using ⟨other.2, hother⟩) label (by simp)).symm
    have hmore := @ih (bound ++ [(label, value)])
      (fun other hother => hlabels other (by simp [hother])) (by simpa using hnodup)
    simp only [List.map_cons, assign, bindLabelled, hcontains, hfresh, Option.isSome_none, if_true,
      Bool.false_eq_true, if_false]
    simpa [assign] using hmore

/-- Labelled values go to the parameters that they name. -/
theorem Name.apply_assign {name : Name} {given : Bindings}
    (hlabels : ∀ item ∈ given, item.1 ∈ name.parameters) (hnodup : (given.map Prod.fst).Nodup) :
    name.apply (given.map assign) = name.build given := by
  have hbound : name.bindArguments (given.map assign) = .ok given := by
    cases given with
    | nil => rfl
    | cons item more => exact bindLabelled_assign hlabels (by simpa using hnodup)
  rw [apply, hbound]

/-- Whether the numbers of a filter are such as templates can ask for. -/
def WithinLimits : Filter → Prop
  | round precision => ∃ n ≤ maxPrecision, precision = Decimal.ofNat n
  | replace _ _ limit => ∀ n, limit = some n → n ≤ maxWhole
  | truncate characters _ => characters ≤ maxWhole
  | _ => True

theorem Name.whole_eq_ok_iff {name : Name} {parameter given : String} {maximum n : Nat} :
    name.whole parameter maximum given = .ok n ↔
      given.toList ≠ [] ∧ given.toList.all Char.isDigit = true ∧
        n = Decimal.ofDigits given.toList ∧ n ≤ maxWhole ∧ n ≤ maximum := by
  unfold Name.whole
  dsimp only
  split
  · next hbad =>
    simp only [reduceCtorEq, false_iff, not_and]
    simp only [Bool.or_eq_true, List.isEmpty_iff, Bool.not_eq_true', decide_eq_true_eq] at hbad
    rintro hne hall rfl hle
    rcases hbad with (hempty | hnot) | hlarge
    · exact absurd hempty hne
    · simp [hall] at hnot
    · omega
  · next hgood =>
    simp only [Bool.or_eq_true, List.isEmpty_iff, Bool.not_eq_true', decide_eq_true_eq, not_or,
      Bool.not_eq_false] at hgood
    obtain ⟨⟨hne, hall⟩, hsmall⟩ := hgood
    split
    · simp only [reduceCtorEq, false_iff, not_and]
      omega
    · simp only [Except.ok.injEq]
      constructor
      · rintro rfl
        exact ⟨hne, hall, rfl, by omega, by omega⟩
      · exact fun h => h.2.2.1.symm

theorem Name.whole_repr (name : Name) (parameter : String) {maximum n : Nat} (hn : n ≤ maxWhole)
    (hmaximum : n ≤ maximum) : name.whole parameter maximum (Nat.repr n) = .ok n := by
  refine Name.whole_eq_ok_iff.mpr ⟨by simp, ?_, (Decimal.ofDigits_repr n).symm, hn, hmaximum⟩
  rw [Nat.toList_repr, List.all_eq_true]
  exact fun c hc => Nat.isDigit_of_mem_toDigits (by decide) (by decide) hc

theorem exists_of_map_eq_ok {α β ε : Type} {x : Except ε α} {f : α → β} {b : β}
    (h : x.map f = .ok b) : ∃ a, x = .ok a ∧ b = f a := by
  cases x with
  | error e => cases h
  | ok a =>
    cases h
    exact ⟨a, rfl, rfl⟩

end StaticPages.Filter
