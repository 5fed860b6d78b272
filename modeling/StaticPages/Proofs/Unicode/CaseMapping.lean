import StaticPages.Unicode.CaseMapping
import StaticPages.Unicode.Category

namespace StaticPages.Unicode

theorem lower_ne_nil (c : Char) : lower c ≠ [] := by
  have himages : ∀ row ∈ lowerExpansions, row.2 ≠ [] := by decide
  unfold lower
  split
  · next image hlookup =>
    obtain ⟨front, back, hsplit, -⟩ := List.lookup_eq_some_iff.mp hlookup
    have hmem : (c.toNat, image) ∈ lowerExpansions := by simp [hsplit]
    simpa using himages _ hmem
  · simp

theorem Shifts.apply_eq_self {shifts : Shifts} {c : Char}
    (h : ∀ row ∈ shifts, steps c.toNat row.1 row.2.1 row.2.2.1 = false) : shifts.apply c = c := by
  unfold Shifts.apply
  dsimp only
  split
  · next row hfound =>
    have hsteps := List.find?_some hfound
    rw [h _ (List.mem_of_find?_eq_some hfound)] at hsteps
    cases hsteps
  · rfl

section Ascii

variable {c : Char}

/-- Of the ASCII characters, only those from `A` to `Z` are upper-case letters. -/
theorem isUpper_of_ascii (h : c.toNat < 0x80) (hc : c.toNat < 0x41 ∨ 0x5A < c.toNat) :
    isUpper c = false := by
  have hrows : ∀ row ∈ upperCaseLetters, row = (0x41, 0x5A, 1) ∨ 0x80 ≤ row.1 := by decide +kernel
  refine List.any_eq_false.mpr fun row hmem => ?_
  simp only [steps, Bool.and_eq_true, decide_eq_true_eq]
  rcases hrows row hmem with rfl | hrow
  · dsimp only
    omega
  · omega

/-- Of the ASCII characters, only those from `A` to `Z` change in lower case. -/
theorem lower_of_ascii (h : c.toNat < 0x80) (hc : c.toNat < 0x41 ∨ 0x5A < c.toNat) :
    lower c = [c] := by
  have hrows : ∀ row ∈ lowerShifts, row = (0x41, 0x5A, 1, 32) ∨ 0x80 ≤ row.1 := by decide +kernel
  have hexpansions : lowerExpansions.lookup c.toNat = none := by
    have hfar : ∀ row ∈ lowerExpansions, 0x80 ≤ row.1 := by decide
    refine List.lookup_eq_none_iff.mpr fun row hmem => ?_
    have hrow := hfar row hmem
    simp only [bne_iff_ne]
    omega
  have hshifts : lowerShifts.apply c = c := by
    refine Shifts.apply_eq_self fun row hmem => ?_
    simp only [steps, Bool.and_eq_false_iff, decide_eq_false_iff_not]
    rcases hrows row hmem with rfl | hrow
    · dsimp only
      omega
    · omega
  rw [lower, hexpansions, hshifts]

/-- The letters from `A` to `Z` become those 32 code points further on. -/
theorem lower_of_capital (hc : 0x41 ≤ c.toNat ∧ c.toNat ≤ 0x5A) :
    ∃ d : Char, lower c = [d] ∧ d.toNat = c.toNat + 32 := by
  have hall : ∀ n ∈ List.range' 0x41 26,
      lower (Char.ofNat n) = [Char.ofNat (n + 32)] ∧ (Char.ofNat (n + 32)).toNat = n + 32 := by
    decide +kernel
  have hc' := hall c.toNat (List.mem_range'_1.mpr (by omega))
  rw [Char.ofNat_toNat] at hc'
  exact ⟨_, hc'⟩

/-- The lower case of an ASCII character is one character: itself, or a lower-case letter. -/
theorem exists_lower_of_ascii (h : c.toNat < 0x80) :
    ∃ d, lower c = [d] ∧ lower d = [d] ∧ isUpper d = false ∧ (d = c ∨ isLower d = true) := by
  by_cases hcapital : 0x41 ≤ c.toNat ∧ c.toNat ≤ 0x5A
  · obtain ⟨d, hlower, hd⟩ := lower_of_capital hcapital
    have hrow : (0x61, 0x7A, 1) ∈ lowerCaseLetters := by decide +kernel
    refine ⟨d, hlower, lower_of_ascii (by omega) (by omega), isUpper_of_ascii (by omega) (by omega),
      .inr (List.any_eq_true.mpr ⟨_, hrow, ?_⟩)⟩
    simp only [steps, Bool.and_eq_true, decide_eq_true_eq, beq_iff_eq]
    omega
  · have hother : c.toNat < 0x41 ∨ 0x5A < c.toNat := by omega
    exact ⟨c, lower_of_ascii h hother, lower_of_ascii h hother, isUpper_of_ascii h hother, .inl rfl⟩

end Ascii

end StaticPages.Unicode
