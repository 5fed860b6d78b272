import StaticPages.Json.Printer

namespace StaticPages

/-- Whether a text stays on one line. -/
def Text.OneLine (text : String) : Prop :=
  '\n' ∉ text.toList

namespace Text.OneLine

@[simp] theorem append_iff {x y : String} : OneLine (x ++ y) ↔ OneLine x ∧ OneLine y := by
  simp [OneLine, not_or]

theorem intercalate {separator : String} (hseparator : OneLine separator) {parts : List String}
    (h : ∀ part ∈ parts, OneLine part) : OneLine (separator.intercalate parts) := by
  induction parts with
  | nil => simp [OneLine]
  | cons first rest ih =>
    obtain ⟨hfirst, hrest⟩ := List.forall_mem_cons.mp h
    cases rest with
    | nil => exact hfirst
    | cons second rest =>
      rw [String.intercalate_cons_cons]
      exact append_iff.mpr ⟨append_iff.mpr ⟨hfirst, hseparator⟩, ih hrest⟩

end Text.OneLine

open Text

theorem Decimal.oneLine_toText (d : Decimal) : OneLine d.toText := by
  have hdigit : ∀ n, '\n' ∉ Nat.toDigits 10 n := by
    intro n hmem
    cases Nat.isDigit_of_mem_toDigits (by decide) (by decide) hmem
  have hpadded : ∀ zeros n, '\n' ∉ List.replicate zeros '0' ++ Nat.toDigits 10 n := by
    intro zeros n
    simp [hdigit n]
  have hsign : ∀ scaled : Int, '\n' ∉ if scaled < 0 then ['-'] else [] := by
    intro scaled
    split <;> simp
  have hpoint : ∀ (places : Nat) (fraction : List Char), '\n' ∉ fraction →
      '\n' ∉ if places = 0 then [] else '.' :: fraction := by
    intro places fraction hfraction
    split <;> simp [hfraction]
  unfold OneLine toText fixed
  rw [String.toList_ofList]
  simp only [List.mem_append, not_or]
  exact ⟨⟨hsign _, fun hmem => hpadded _ _ (List.mem_of_mem_take hmem)⟩,
    hpoint _ _ fun hmem => hpadded _ _ (List.mem_of_mem_drop hmem)⟩

namespace Json

theorem oneLine_quote (text : String) : OneLine (quote text) := by
  have hhex : ∀ n < 0x20, (unicodeEscape n).all (· != '\n') := by decide
  have hescape : ∀ c, '\n' ∉ escape c := by
    intro c
    unfold escape
    split
    iterate 7 simp
    · next hfeed _ _ =>
      split
      · next hcontrol =>
        intro hmem
        simpa using List.all_eq_true.mp (hhex _ hcontrol) _ hmem
      · simpa using Ne.symm hfeed
  simp [OneLine, quote, hescape]

theorem oneLine_literal (value : Bool) : OneLine (literal value) := by
  cases value <;> simp [literal, OneLine]

mutual

/-- A value without white space stays on one line, whatever its texts contain. -/
theorem oneLine_compact : ∀ value : Json, OneLine (compact value)
  | .null => by simp [compact, OneLine]
  | .bool value => by
    rw [compact]
    exact oneLine_literal value
  | .number value => by
    rw [compact]
    exact value.oneLine_toText
  | .string value => by
    rw [compact]
    exact oneLine_quote value
  | .array items => by
    have hcomma : OneLine "," := by simp [OneLine]
    have hitems := OneLine.intercalate hcomma (oneLine_compactItems items)
    rw [compact, OneLine.append_iff, OneLine.append_iff]
    exact ⟨⟨by simp [OneLine], hitems⟩, by simp [OneLine]⟩
  | .object fields => by
    have hcomma : OneLine "," := by simp [OneLine]
    have hfields := OneLine.intercalate hcomma (oneLine_compactFields fields)
    rw [compact, OneLine.append_iff, OneLine.append_iff]
    exact ⟨⟨by simp [OneLine], hfields⟩, by simp [OneLine]⟩

theorem oneLine_compactItems : ∀ items : List Json, ∀ text ∈ compactItems items, OneLine text
  | [] => by simp [compactItems]
  | item :: rest => by
    rw [compactItems]
    exact List.forall_mem_cons.mpr ⟨oneLine_compact item, oneLine_compactItems rest⟩

theorem oneLine_compactFields :
    ∀ fields : List (String × Json), ∀ text ∈ compactFields fields, OneLine text
  | [] => by simp [compactFields]
  | (key, value) :: rest => by
    have hcolon : OneLine ":" := by simp [OneLine]
    rw [compactFields]
    refine List.forall_mem_cons.mpr ⟨?_, oneLine_compactFields rest⟩
    exact OneLine.append_iff.mpr
      ⟨OneLine.append_iff.mpr ⟨oneLine_quote key, hcolon⟩, oneLine_compact value⟩

end

end Json

end StaticPages
