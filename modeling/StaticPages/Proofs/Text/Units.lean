import StaticPages.Text.Units

namespace StaticPages.Text

section Units

/-- No character has the code of a surrogate. -/
theorem not_surrogate (c : Char) :
    isHighSurrogate c.toNat = false ∧ isLowSurrogate c.toNat = false := by
  have hvalid : c.toNat < 0xD800 ∨ 0xDFFF < c.toNat ∧ c.toNat < 0x110000 := c.valid
  unfold isHighSurrogate isLowSurrogate
  constructor <;> simp <;> omega

theorem ne_toNat_of_surrogate {n : Nat} (h : isHighSurrogate n = true ∨ isLowSurrogate n = true)
    (c : Char) : n ≠ c.toNat := by
  rintro rfl
  obtain ⟨hhigh, hlow⟩ := not_surrogate c
  rcases h with h | h
  · rw [hhigh] at h
    cases h
  · rw [hlow] at h
    cases h

@[simp] theorem units_cons (c : Char) (cs : List Char) :
    units (c :: cs) = codeUnits c ++ units cs := rfl

@[simp] theorem units_append (xs ys : List Char) : units (xs ++ ys) = units xs ++ units ys :=
  List.flatMap_append

@[simp] theorem length_units (cs : List Char) : (units cs).length = size cs := by
  induction cs with
  | nil => rfl
  | cons c cs ih =>
    rw [units_cons, List.length_append, ih, size, codeUnits, width]
    split <;> rfl

/-- The units of a character that takes two are a high and a low surrogate. -/
theorem exists_codeUnits {c : Char} (h : width c = 2) :
    ∃ high low, codeUnits c = [high, low] ∧ isHighSurrogate high = true ∧
      isLowSurrogate low = true ∧
      c.toNat = 0x10000 + (high - 0xD800) * 0x400 + (low - 0xDC00) := by
  have hvalid : c.toNat < 0xD800 ∨ 0xDFFF < c.toNat ∧ c.toNat < 0x110000 := c.valid
  have hwide : ¬ c.toNat < 0x10000 := by
    intro hnarrow
    rw [width, if_pos hnarrow] at h
    cases h
  refine ⟨0xD800 + (c.toNat - 0x10000) / 0x400, 0xDC00 + (c.toNat - 0x10000) % 0x400,
    ?_, ?_, ?_, ?_⟩
  · simp only [codeUnits, if_neg hwide]
  · simp [isHighSurrogate]
    omega
  · simp [isLowSurrogate]
    omega
  · omega

theorem width_eq (c : Char) : width c = 1 ∨ width c = 2 := by
  unfold width
  split
  · exact .inl rfl
  · exact .inr rfl

theorem codeUnits_of_narrow {c : Char} (h : width c = 1) : codeUnits c = [c.toNat] := by
  unfold width at h
  unfold codeUnits
  split at h
  · next hnarrow => simp [hnarrow]
  · cases h

theorem single_toNat (c : Char) : single c.toNat = c := by
  obtain ⟨hhigh, hlow⟩ := not_surrogate c
  simp [single, hhigh, hlow, Char.ofNat_toNat]

/-- The code of a character is read as that character, whatever follows it. -/
theorem ofUnits_toNat_cons (c : Char) (us : List Nat) :
    ofUnits (c.toNat :: us) = c :: ofUnits us := by
  cases us with
  | nil => simp [ofUnits, single_toNat]
  | cons next us => simp [ofUnits, (not_surrogate c).1, single_toNat]

/-- A low surrogate never joins what follows it. -/
theorem ofUnits_low_cons {low : Nat} (h : isLowSurrogate low = true) (us : List Nat) :
    ofUnits (low :: us) = half :: ofUnits us := by
  have hnot : isHighSurrogate low = false := by
    simp only [isLowSurrogate, Bool.and_eq_true, decide_eq_true_eq] at h
    simp [isHighSurrogate]
    omega
  have hsingle : single low = half := by simp [single, h]
  cases us with
  | nil => simp [ofUnits, hsingle]
  | cons next us => simp [ofUnits, hnot, hsingle]

theorem ofUnits_codeUnits_append (c : Char) (us : List Nat) :
    ofUnits (codeUnits c ++ us) = c :: ofUnits us := by
  rcases width_eq c with h | h
  · rw [codeUnits_of_narrow h, List.singleton_append, ofUnits_toNat_cons]
  · obtain ⟨high, low, hunits, hhigh, hlow, hcode⟩ := exists_codeUnits h
    rw [hunits, List.cons_append, List.singleton_append, ofUnits, hhigh, hlow, ← hcode]
    simp [Char.ofNat_toNat]

/-- A text is read back from its units, whatever follows them. -/
theorem ofUnits_units_append (cs : List Char) (us : List Nat) :
    ofUnits (units cs ++ us) = cs ++ ofUnits us := by
  induction cs with
  | nil => rfl
  | cons c cs ih =>
    rw [units_cons, List.append_assoc, ofUnits_codeUnits_append, ih, List.cons_append]

@[simp] theorem ofUnits_units (cs : List Char) : ofUnits (units cs) = cs := by
  simpa [ofUnits] using ofUnits_units_append cs []

end Units

section Cut

@[simp] theorem takeUnits_zero (cs : List Char) : takeUnits 0 cs = [] := by
  rw [takeUnits, List.take_zero, ofUnits]

@[simp] theorem dropUnits_zero (cs : List Char) : dropUnits 0 cs = cs := by
  rw [dropUnits, List.drop_zero, ofUnits_units]

/-- Taking units passes over a start of the text that fits in whole. -/
theorem takeUnits_size_add (xs ys : List Char) (n : Nat) :
    takeUnits (size xs + n) (xs ++ ys) = xs ++ takeUnits n ys := by
  rw [takeUnits, units_append, ← length_units, List.take_length_add_append, ofUnits_units_append,
    takeUnits]

theorem dropUnits_size_add (xs ys : List Char) (n : Nat) :
    dropUnits (size xs + n) (xs ++ ys) = dropUnits n ys := by
  rw [dropUnits, units_append, ← length_units, List.drop_length_add_append, dropUnits]

@[simp] theorem takeUnits_size (xs ys : List Char) : takeUnits (size xs) (xs ++ ys) = xs := by
  simpa using takeUnits_size_add xs ys 0

@[simp] theorem dropUnits_size (xs ys : List Char) : dropUnits (size xs) (xs ++ ys) = ys := by
  simpa using dropUnits_size_add xs ys 0

theorem takeUnits_of_size_le {cs : List Char} {n : Nat} (h : size cs ≤ n) :
    takeUnits n cs = cs := by
  rw [takeUnits, List.take_of_length_le (by rwa [length_units]), ofUnits_units]

theorem dropUnits_of_size_le {cs : List Char} {n : Nat} (h : size cs ≤ n) :
    dropUnits n cs = [] := by
  rw [dropUnits, List.drop_of_length_le (by rwa [length_units]), ofUnits]

/-- The first unit of a character that takes two is half of it. -/
theorem takeUnits_one_of_wide {c : Char} (h : width c = 2) (cs : List Char) :
    takeUnits 1 (c :: cs) = [half] := by
  obtain ⟨high, low, hunits, hhigh, -, -⟩ := exists_codeUnits h
  simp [takeUnits, hunits, ofUnits, single, hhigh]

/-- What follows that unit is the other half and the rest of the text. -/
theorem dropUnits_one_of_wide {c : Char} (h : width c = 2) (cs : List Char) :
    dropUnits 1 (c :: cs) = half :: cs := by
  obtain ⟨high, low, hunits, -, hlow, -⟩ := exists_codeUnits h
  have hrest : (units (c :: cs)).drop 1 = low :: units cs := by simp [hunits]
  rw [dropUnits, hrest, ofUnits_low_cons hlow, ofUnits_units]

theorem width_half : width half = 1 := rfl

/-- Where a number of units leads: between two characters, into one, or past the end. -/
theorem units_cases (n : Nat) (cs : List Char) :
    (∃ xs ys, cs = xs ++ ys ∧ n = size xs) ∨
      (∃ xs c ys, cs = xs ++ c :: ys ∧ n = size xs + 1 ∧ width c = 2) ∨ size cs < n := by
  induction cs generalizing n with
  | nil =>
    rcases Nat.eq_zero_or_pos n with rfl | hpos
    · exact .inl ⟨[], [], rfl, rfl⟩
    · exact .inr (.inr hpos)
  | cons c cs ih =>
    rcases Nat.lt_or_ge n (width c) with hlt | hge
    · rcases Nat.eq_zero_or_pos n with rfl | hpos
      · exact .inl ⟨[], c :: cs, rfl, rfl⟩
      · have hwidth := width_eq c
        exact .inr (.inl ⟨[], c, cs, rfl, by simp only [size]; omega, by omega⟩)
    · obtain ⟨xs, ys, rfl, hn⟩ | ⟨xs, d, ys, rfl, hn, hwide⟩ | hpast := ih (n - width c)
      · exact .inl ⟨c :: xs, ys, rfl, by simp only [size]; omega⟩
      · exact .inr (.inl ⟨c :: xs, d, ys, rfl, by simp only [size]; omega, hwide⟩)
      · exact .inr (.inr (by simp only [size]; omega))

theorem size_takeUnits (n : Nat) (cs : List Char) : size (takeUnits n cs) = min n (size cs) := by
  obtain ⟨xs, ys, rfl, rfl⟩ | ⟨xs, c, ys, rfl, rfl, hwide⟩ | hpast := units_cases n cs
  · rw [takeUnits_size, size_append]
    omega
  · rw [takeUnits_size_add, takeUnits_one_of_wide hwide]
    simp only [size_append, size, hwide, width_half]
    omega
  · rw [takeUnits_of_size_le (by omega)]
    omega

/-- Nothing is lost where a text is cut, unless a pair is cut in two. -/
theorem takeUnits_append_dropUnits {n : Nat} {cs : List Char}
    (h : (dropUnits n cs).head? ≠ some half) : takeUnits n cs ++ dropUnits n cs = cs := by
  obtain ⟨xs, ys, rfl, rfl⟩ | ⟨xs, c, ys, rfl, rfl, hwide⟩ | hpast := units_cases n cs
  · rw [takeUnits_size, dropUnits_size]
  · rw [dropUnits_size_add, dropUnits_one_of_wide hwide] at h
    exact absurd rfl h
  · rw [takeUnits_of_size_le (by omega), dropUnits_of_size_le (by omega), List.append_nil]

/-- The units of what is left are the units that are left, but that half of a pair in front
    of them has become the replacement character. -/
theorem units_dropUnits (n : Nat) (cs : List Char) :
    units (dropUnits n cs) = (units cs).drop n ∨
      ∃ low us, isLowSurrogate low = true ∧ (units cs).drop n = low :: us ∧
        units (dropUnits n cs) = half.toNat :: us := by
  obtain ⟨xs, ys, rfl, rfl⟩ | ⟨xs, c, ys, rfl, rfl, hwide⟩ | hpast := units_cases n cs
  · left
    rw [dropUnits_size, units_append, ← length_units, List.drop_left]
  · right
    obtain ⟨high, low, hunits, -, hlow, -⟩ := exists_codeUnits hwide
    refine ⟨low, units ys, hlow, ?_, ?_⟩
    · rw [units_append, ← length_units, List.drop_length_add_append, units_cons, hunits]
      rfl
    · rw [dropUnits_size_add, dropUnits_one_of_wide hwide]
      rfl
  · left
    rw [dropUnits_of_size_le (by omega), List.drop_of_length_le (by rw [length_units]; omega)]
    rfl

theorem size_dropUnits (n : Nat) (cs : List Char) : size (dropUnits n cs) = size cs - n := by
  rw [← length_units, ← length_units, ← List.length_drop]
  obtain h | ⟨low, us, -, hdrop, hunits⟩ := units_dropUnits n cs
  · rw [h]
  · rw [hdrop, hunits, List.length_cons, List.length_cons]

/-- Units that are dropped in two steps are dropped in one. -/
theorem dropUnits_dropUnits (n m : Nat) (cs : List Char) :
    dropUnits m (dropUnits n cs) = dropUnits (n + m) cs := by
  obtain h | ⟨low, us, -, hdrop, hunits⟩ := units_dropUnits n cs
  · rw [dropUnits, h, List.drop_drop, dropUnits]
  · cases m with
    | zero => rw [dropUnits_zero, Nat.add_zero]
    | succ m =>
      rw [dropUnits, hunits, dropUnits, ← List.drop_drop (i := m + 1), hdrop,
        List.drop_succ_cons, List.drop_succ_cons]

/-- Line feeds are units of their own. -/
theorem count_codeUnits (c : Char) : (codeUnits c).count '\n'.toNat = [c].count '\n' := by
  rcases width_eq c with h | h
  · rw [codeUnits_of_narrow h, List.count_singleton, List.count_singleton]
    simp only [beq_iff_eq, Char.toNat_inj]
  · obtain ⟨high, low, hunits, hhigh, hlow, -⟩ := exists_codeUnits h
    have hne : c ≠ '\n' := by
      rintro rfl
      cases h
    rw [hunits, List.count_cons_of_ne (ne_toNat_of_surrogate (.inl hhigh) '\n'),
      List.count_cons_of_ne (ne_toNat_of_surrogate (.inr hlow) '\n'), List.count_cons_of_ne hne]
    rfl

theorem count_units (cs : List Char) : (units cs).count '\n'.toNat = cs.count '\n' := by
  induction cs with
  | nil => rfl
  | cons c cs ih =>
    rw [units_cons, List.count_append, ih, count_codeUnits, ← List.count_append,
      List.singleton_append]

theorem count_takeUnits (n : Nat) (cs : List Char) :
    (takeUnits n cs).count '\n' = ((units cs).take n).count '\n'.toNat := by
  obtain ⟨xs, ys, rfl, rfl⟩ | ⟨xs, c, ys, rfl, rfl, hwide⟩ | hpast := units_cases n cs
  · rw [takeUnits_size, units_append, ← length_units, List.take_left, count_units]
  · obtain ⟨high, low, hunits, hhigh, -, -⟩ := exists_codeUnits hwide
    have hfirst : [high].count '\n'.toNat = 0 :=
      List.count_cons_of_ne (ne_toNat_of_surrogate (.inl hhigh) '\n')
    rw [takeUnits_size_add, takeUnits_one_of_wide hwide, units_append, ← length_units,
      List.take_length_add_append, units_cons, hunits, List.count_append, List.count_append,
      count_units, List.cons_append, List.take_succ_cons, List.take_zero, hfirst]
    rfl
  · rw [takeUnits_of_size_le (by omega), List.take_of_length_le (by rw [length_units]; omega),
      count_units]

/-- Half of a pair is no line feed, so what is left has the line feeds that are left. -/
theorem count_take_units_dropUnits (n m : Nat) (cs : List Char) :
    ((units (dropUnits n cs)).take m).count '\n'.toNat =
      (((units cs).drop n).take m).count '\n'.toNat := by
  obtain h | ⟨low, us, hlow, hdrop, hunits⟩ := units_dropUnits n cs
  · rw [h]
  · rw [hunits, hdrop]
    cases m with
    | zero => rfl
    | succ m =>
      rw [List.take_succ_cons, List.take_succ_cons, List.count_cons_of_ne (by decide),
        List.count_cons_of_ne (ne_toNat_of_surrogate (.inr hlow) '\n')]

end Cut

theorem size_eq_zero {cs : List Char} (h : size cs = 0) : cs = [] := by
  cases cs with
  | nil => rfl
  | cons c cs =>
    have hpos := width_pos c
    simp only [size] at h
    omega

/-- Of two ways to divide a text, the one that comes first divides the first part of
    the other. -/
theorem append_eq_of_size_le {xs ys us vs : List Char} (h : xs ++ ys = us ++ vs)
    (hle : size xs ≤ size us) : ∃ between, us = xs ++ between ∧ ys = between ++ vs := by
  rcases List.append_eq_append_iff.mp h with ⟨between, hus, hys⟩ | ⟨excess, hxs, hvs⟩
  · exact ⟨between, hus, hys⟩
  · have hnil : excess = [] := by
      rw [hxs, size_append] at hle
      exact size_eq_zero (by omega)
    subst hnil
    exact ⟨[], by simpa using hxs.symm, by simpa using hvs.symm⟩

end StaticPages.Text
