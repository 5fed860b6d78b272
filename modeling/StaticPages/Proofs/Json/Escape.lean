import StaticPages.Json.Printer
import StaticPages.Proofs.Source.Token

namespace StaticPages.Json

/-- Whether a character is written in an escaped form within a JSON string. -/
def Escaped (c : Char) : Prop :=
  c = '"' ∨ c = '\\' ∨ c.toNat < 0x20

theorem escape_of_not_escaped {c : Char} (h : ¬ Escaped c) : escape c = [c] := by
  simp only [Escaped, not_or] at h
  obtain ⟨hquote, hslash, hcontrol⟩ := h
  have hne : ∀ d : Char, d.toNat < 0x20 → c ≠ d := by
    rintro d hd rfl
    exact hcontrol hd
  unfold escape
  split
  · exact absurd rfl hquote
  · exact absurd rfl hslash
  iterate 5 exact absurd rfl (hne _ (by decide))
  · rw [if_neg hcontrol]

theorem toNat_lt_of_escaped {c : Char} (h : Escaped c) (hquote : c ≠ '"') (hslash : c ≠ '\\') :
    c.toNat < 0x20 := by
  rcases h with rfl | rfl | hcontrol
  · exact absurd rfl hquote
  · exact absurd rfl hslash
  · exact hcontrol

/-- An escaped form begins with a backslash that hides the next of its characters,
    and what follows needs no hiding. -/
theorem exists_escape_of_escaped {c : Char} (h : Escaped c) :
    ∃ d cs, escape c = '\\' :: d :: cs ∧ ∀ x ∈ cs, x ≠ '"' ∧ x ≠ '\\' := by
  have hhex : ∀ n < 0x20, ((unicodeEscape n).drop 2).all (fun x => x != '"' && x != '\\') := by
    decide
  unfold escape
  split
  iterate 7 exact ⟨_, [], rfl, by simp⟩
  · next hquote hslash _ _ _ _ _ =>
    have hcontrol := toNat_lt_of_escaped h hquote hslash
    rw [if_pos hcontrol]
    refine ⟨'u', (unicodeEscape c.toNat).drop 2, rfl, fun x hx => ?_⟩
    simpa using List.all_eq_true.mp (hhex _ hcontrol) x hx

theorem quotedBody_flatMap_escape (cs : List Char) : Token.QuotedBody (cs.flatMap escape) := by
  induction cs with
  | nil => exact .nil
  | cons c cs ih =>
    rw [List.flatMap_cons]
    apply Token.QuotedBody.append _ ih
    by_cases h : Escaped c
    · obtain ⟨d, rest, hescape, hrest⟩ := exists_escape_of_escaped h
      rw [hescape]
      exact .hidden (Token.quotedBody_of_forall hrest)
    · rw [escape_of_not_escaped h]
      have hplain : c ≠ '"' ∧ c ≠ '\\' := ⟨fun hc => h (.inl hc), fun hc => h (.inr (.inl hc))⟩
      exact .plain hplain.1 hplain.2 .nil

theorem length_le_flatMap_escape (cs : List Char) : cs.length ≤ (cs.flatMap escape).length := by
  induction cs with
  | nil => simp
  | cons c cs ih =>
    rw [List.flatMap_cons, List.length_append, List.length_cons]
    by_cases h : Escaped c
    · obtain ⟨d, rest, hescape, _⟩ := exists_escape_of_escaped h
      simp only [hescape, List.length_cons]
      omega
    · simp only [escape_of_not_escaped h, List.length_singleton]
      omega

/-- Escaping changes every text in which something is to be escaped. -/
theorem flatMap_escape_eq_self_iff {cs : List Char} :
    cs.flatMap escape = cs ↔ ∀ c ∈ cs, ¬ Escaped c := by
  induction cs with
  | nil => simp
  | cons c cs ih =>
    rw [List.flatMap_cons, List.forall_mem_cons]
    by_cases h : Escaped c
    · obtain ⟨d, rest, hescape, _⟩ := exists_escape_of_escaped h
      have hlonger := length_le_flatMap_escape cs
      constructor
      · intro heq
        have hlength := congrArg List.length heq
        simp only [hescape, List.length_append, List.length_cons] at hlength
        omega
      · exact fun hnot => absurd h hnot.1
    · rw [escape_of_not_escaped h, List.singleton_append, List.cons.injEq, ih]
      simp [h]

end StaticPages.Json
