import StaticPages.Proofs.Filter.Exact
import StaticPages.Proofs.Filter.Rounding

namespace StaticPages

namespace Binary64

/-- The finite binary64 numbers: integers of at most 53 bits, times a power of two. -/
def IsFinite (y : ℚ) : Prop :=
  ∃ m e : ℤ, |m| < 2 ^ 53 ∧ -1074 ≤ e ∧ e ≤ 971 ∧ y = m * 2 ^ e

/-- Whether the binary64 number nearest to a number is finite. On either side, the next power of
    two stands for what is beyond the finite numbers. It wins a tie with the last of them, since
    the significand of that one is odd. -/
def RoundsToFinite (x : ℚ) : Prop :=
  ∃ y, IsFinite y ∧ |x - y| < |x - 2 ^ 1024| ∧ |x - y| < |x + 2 ^ 1024|

theorem two_pow_overflow : (2 : ℚ) ^ 1024 = 2 ^ 53 * 2 ^ 971 :=
  pow_add 2 53 971

theorem two_pow_step : (2 : ℚ) ^ 971 = 2 ^ 970 * 2 :=
  pow_succ 2 970

theorem IsFinite.neg {y : ℚ} (h : IsFinite y) : IsFinite (-y) := by
  obtain ⟨m, e, hm, hlow, hhigh, rfl⟩ := h
  refine ⟨-m, e, by rwa [abs_neg], hlow, hhigh, ?_⟩
  rw [Int.cast_neg, neg_mul]

theorem IsFinite.abs_le {y : ℚ} (h : IsFinite y) : |y| ≤ 2 ^ 1024 - 2 ^ 971 := by
  obtain ⟨m, e, hm, -, he, rfl⟩ := h
  have hsignificand : |(m : ℚ)| ≤ 2 ^ 53 - 1 := by
    have hle : |m| ≤ 2 ^ 53 - 1 := Int.le_sub_one_of_lt hm
    exact_mod_cast hle
  have hscale : (2 : ℚ) ^ e ≤ 2 ^ 971 := by
    rw [← zpow_natCast]
    exact zpow_le_zpow_right₀ one_le_two he
  have hpos : (0 : ℚ) < 2 ^ e := zpow_pos two_pos e
  rw [abs_mul, abs_of_pos hpos, two_pow_overflow, ← sub_one_mul]
  exact mul_le_mul hsignificand hscale hpos.le ((abs_nonneg _).trans hsignificand)

theorem isFinite_greatest : IsFinite (2 ^ 1024 - 2 ^ 971) := by
  have hscale : (2 : ℚ) ^ (971 : ℤ) = 2 ^ 971 := zpow_natCast 2 971
  have hsignificand : ((2 ^ 53 - 1 : ℤ) : ℚ) = 2 ^ 53 - 1 := by norm_num
  refine ⟨2 ^ 53 - 1, 971, by decide, by decide, le_rfl, ?_⟩
  rw [hscale, hsignificand, two_pow_overflow, sub_one_mul]

/-- The numbers that round to finite ones are those less than half a step above the greatest. -/
theorem roundsToFinite_iff {x : ℚ} : RoundsToFinite x ↔ |x| < 2 ^ 1024 - 2 ^ 970 := by
  have hgreatest := isFinite_greatest
  have hle (y : ℚ) (hy : IsFinite y) := abs_le.mp hy.abs_le
  have hnext := two_pow_overflow
  have hstep := two_pow_step
  have hpos : (0 : ℚ) < 2 ^ 970 := pow_pos two_pos 970
  unfold RoundsToFinite
  -- Only how these powers relate counts from here on, not how large they are.
  generalize (2 : ℚ) ^ 1024 = next at *
  generalize (2 : ℚ) ^ 971 = step at *
  generalize (2 : ℚ) ^ 970 = half at *
  constructor
  · rintro ⟨y, hy, habove, hbelow⟩
    obtain ⟨hlow, hhigh⟩ := hle y hy
    refine abs_lt.mpr ⟨?_, ?_⟩
    · have hnear := neg_le_abs (x - y)
      rcases abs_cases (x + next) with ⟨habs, -⟩ | ⟨habs, -⟩ <;> linarith
    · have hnear := le_abs_self (x - y)
      rcases abs_cases (x - next) with ⟨habs, -⟩ | ⟨habs, -⟩ <;> linarith
  · intro h
    obtain ⟨hlow, hhigh⟩ := abs_lt.mp h
    rcases le_total 0 x with hx | hx
    · refine ⟨next - step, hgreatest, ?_, ?_⟩
      · rw [abs_of_neg (show x - next < 0 by linarith)]
        exact abs_lt.mpr ⟨by linarith, by linarith⟩
      · rw [abs_of_pos (show 0 < x + next by linarith)]
        exact abs_lt.mpr ⟨by linarith, by linarith⟩
    · refine ⟨-(next - step), hgreatest.neg, ?_, ?_⟩
      · rw [abs_of_neg (show x - next < 0 by linarith)]
        exact abs_lt.mpr ⟨by linarith, by linarith⟩
      · rw [abs_of_pos (show 0 < x + next by linarith)]
        exact abs_lt.mpr ⟨by linarith, by linarith⟩

end Binary64

namespace Decimal

/-- Without zeros in front, a number below a power of ten has at most that many digits. -/
theorem IsPlain.length_le {digits : List Char} (h : IsPlain digits) {n : Nat} (hn : 0 < n)
    (hlt : ofDigits digits < 10 ^ n) : digits.length ≤ n := by
  cases digits with
  | nil => exact absurd rfl h.ne_nil
  | cons first rest =>
    by_cases hfirst : first = '0'
    · rw [h.head (congrArg some hfirst)]
      exact hn
    · have hdigit := (digit_eq_zero_iff (h.isDigit first List.mem_cons_self)).not.mpr hfirst
      have hle : 10 ^ rest.length ≤ ofDigits (first :: rest) := by
        rw [ofDigits_cons]
        exact Nat.le_add_right_of_le (Nat.le_mul_of_pos_left _ (Nat.pos_of_ne_zero hdigit))
      exact (Nat.pow_lt_pow_iff_right (by decide)).mp (hle.trans_lt hlt)

end Decimal

namespace Numeral

/-- Moving the point leaves no zeros in front of the whole part but a lone one. -/
theorem isPlain_positional {n : Numeral} (h : ∀ c ∈ n.whole ++ n.fraction, c.isDigit = true) :
    Decimal.IsPlain n.positional.whole := by
  have hdigits (led behind : Nat) : ∀ c ∈ List.replicate led '0' ++ (n.whole ++ n.fraction) ++
      List.replicate behind '0', c.isDigit = true := by
    intro c hc
    rcases List.mem_append.mp hc with hc | hzero
    · exact (List.mem_append.mp hc).elim Decimal.isDigit_of_mem_zeros (h c)
    · exact Decimal.isDigit_of_mem_zeros hzero
  unfold positional
  dsimp only
  split
  · exact ⟨List.cons_ne_nil _ _, by simp, fun _ => rfl⟩
  · next hne =>
    refine ⟨fun hnil => hne (List.isEmpty_iff.mpr hnil), fun c hc => ?_, fun hhead => ?_⟩
    · exact hdigits _ _ c (List.mem_of_mem_take ((List.dropWhile_sublist _).subset hc))
    · exact absurd (Text.stops_dropWhile _ _ '0' hhead) (by decide)

theorem cast_magnitudeBound : (magnitudeBound : ℚ) = 2 ^ 1024 - 2 ^ 970 := by
  have hle : 970 ≤ 1024 := by decide
  rw [magnitudeBound]
  -- The powers are too large to be worked out.
  generalize 970 = m at *
  generalize 1024 = n at *
  rw [Nat.pow_eq, Nat.pow_eq, Nat.cast_sub (Nat.pow_le_pow_right two_pos hle), Nat.cast_pow,
    Nat.cast_pow, Nat.cast_two]

theorem magnitudeBound_le : magnitudeBound ≤ 10 ^ 309 := by
  decide +kernel

end Numeral

namespace Filter

/-- Whether big integers can be read from the parts of a number: they are digits and nothing else,
    with at least one and not too many of them in front of the point. -/
structure IsDigits (p : Positional) : Prop where
  whole : Decimal.IsPlain p.whole
  length_le : p.whole.length ≤ 309
  fraction : ∀ c ∈ p.fraction, c.isDigit = true

theorem isDigits_of_number {filter value : String} {p : Positional}
    (h : number filter value = .ok p) : IsDigits p := by
  obtain ⟨numeral, hread, hrange, rfl⟩ := number_eq_ok_iff.mp h
  obtain ⟨-, -, -, -, -, -, -, hdigits, -⟩ := Numeral.ofChars?_eq_some_iff.mp hread
  have hrepresents := Numeral.represents_positional hdigits
  have hplain := Numeral.isPlain_positional hdigits
  refine ⟨hplain, hplain.length_le (by decide) ?_, hrepresents.isDigit⟩
  have hlt : numeral.value.numerator.natAbs < Numeral.magnitudeBound * numeral.value.denominator :=
    IsNumber.lt ⟨numeral, hread, hrange, rfl⟩
  rw [hrepresents.natAbs_numerator] at hlt
  have hbound : Decimal.ofDigits numeral.positional.whole < Numeral.magnitudeBound :=
    Nat.lt_of_mul_lt_mul_right (Nat.lt_of_add_right_lt hlt)
  exact hbound.trans_le Numeral.magnitudeBound_le

theorem exists_denotes_iff {value : String} : (∃ x, Denotes value x) ↔ ∃ d, IsNumber value d := by
  simp only [denotes_iff]
  exact ⟨fun ⟨_, d, hd, _⟩ => ⟨d, hd⟩, fun ⟨d, hd⟩ => ⟨_, d, hd, rfl⟩⟩

/-- The bound on a number's magnitude is where binary64 overflows. -/
theorem exists_denotes_iff_roundsToFinite {value : String} {numeral : Numeral}
    (hwritten : numeral.IsWritten (Text.trimChars value.toList))
    (hexponent : numeral.exponent.natAbs ≤ Numeral.maxExponent) :
    (∃ x, Denotes value x) ↔ Binary64.RoundsToFinite numeral.toRat := by
  rw [Binary64.roundsToFinite_iff, ← Numeral.cast_magnitudeBound]
  constructor
  · rintro ⟨_, other, hother, rfl, -, hlt⟩
    have hread := Numeral.ofChars?_eq_some_iff.mpr hother
    cases hread.symm.trans (Numeral.ofChars?_eq_some_iff.mpr hwritten)
    exact hlt
  · exact fun hlt => ⟨numeral.toRat, numeral, hwritten, rfl, hexponent, hlt⟩

/-- The filters `ceil`, `floor` and `round` take the same values: the decimal numbers whose
    exponent is not too large and that are finite in binary64. Every other value they refuse in
    one and the same way. What they take leaves them with digits that can always be worked with. -/
theorem taken_spec {r : Rounding} (h : r.places ≤ maxPrecision) (render : Renderer)
    (value : String) :
    ((∃ text, r.filter.apply render value = .ok text) ↔ ∃ x, Denotes value x) ∧
      (∀ fault, r.filter.apply render value = .error fault ↔ (¬ ∃ x, Denotes value x) ∧
        fault = .render ⟨.invalidFilterInput, refusal r.name value, none⟩) ∧
      (∀ numeral : Numeral, numeral.IsWritten (Text.trimChars value.toList) →
        numeral.exponent.natAbs ≤ Numeral.maxExponent →
          ((∃ x, Denotes value x) ↔ Binary64.RoundsToFinite numeral.toRat)) ∧
      ∀ p, number r.name value = .ok p → IsDigits p := by
  refine ⟨?_, fun fault => ?_, fun _ => exists_denotes_iff_roundsToFinite,
    fun _ => isDigits_of_number⟩
  · rw [exists_denotes_iff]
    simp only [Rounding.apply_filter_eq_ok_iff h]
    exact ⟨fun ⟨_, d, hd, _⟩ => ⟨d, hd⟩, fun ⟨d, hd⟩ => ⟨_, d, hd, rfl⟩⟩
  · rw [exists_denotes_iff, Rounding.apply_filter_eq_error_iff h, not_exists]

theorem taken_spec_tiny :
    (Rounding.nearest 100).places ≤ maxPrecision ∧
      (∃ text, (Rounding.nearest 100).filter.apply (fun text => .ok text) "\t+.5E-1000 " = .ok text) ∧
        Binary64.RoundsToFinite (Numeral.toRat ⟨false, [], ['5'], -1000⟩) ∧
          ¬ ∃ x, Denotes "0e1001" x := by
  have hplaces : (Rounding.nearest 100).places ≤ maxPrecision := by decide
  have hwritten : Numeral.IsWritten ⟨false, [], ['5'], -1000⟩ (Text.trimChars "\t+.5E-1000 ".toList) :=
    Numeral.ofChars?_eq_some_iff.mp (by decide +kernel)
  have hdenotes : ∃ x, Denotes "\t+.5E-1000 " x :=
    ⟨_, _, hwritten, rfl, (inRange_iff _).mp (by decide +kernel)⟩
  obtain ⟨htaken, -, hfinite, -⟩ := taken_spec hplaces (fun text => .ok text) "\t+.5E-1000 "
  obtain ⟨-, hrefused, -, -⟩ := taken_spec hplaces (fun text => .ok text) "0e1001"
  have happly : (Rounding.nearest 100).filter.apply (fun text => .ok text) "0e1001" =
      .error (.render ⟨.invalidFilterInput, .outOfRange "round" "0e1001", none⟩) := by
    decide +kernel
  exact ⟨hplaces, htaken.mpr hdenotes, (hfinite _ hwritten (by decide)).mp hdenotes,
    ((hrefused _).mp happly).1⟩

end Filter

end StaticPages
