import StaticPages.Proofs.Filter.Apply
import StaticPages.Proofs.Numeral

namespace StaticPages.Filter

/-- What a numeral is worth is a number that filters can handle below the bound only. -/
theorem IsNumber.lt {value : String} {d : Decimal} (h : IsNumber value d) :
    d.numerator.natAbs < Numeral.magnitudeBound * d.denominator := by
  obtain ⟨numeral, -, hrange, rfl⟩ := h
  simp only [Numeral.inRange, Bool.and_eq_true, decide_eq_true_eq] at hrange
  exact hrange.2

/-- What is written with a fixed number of places is read back, if it is in range. -/
theorem isNumber_fixed_iff {units : Int} {places : Nat} {d : Decimal} :
    IsNumber (Decimal.fixed units places) d ↔
      d = ⟨units, -places⟩ ∧ units.natAbs < Numeral.magnitudeBound * 10 ^ places := by
  obtain ⟨numeral, hread, hexponent, hvalue⟩ := Numeral.ofChars?_fixed units places
  have hrange : numeral.inRange = true ↔
      units.natAbs < Numeral.magnitudeBound * 10 ^ places := by
    simp [Numeral.inRange, hexponent, hvalue, Decimal.numerator_units, Decimal.denominator_units]
  constructor
  · rintro ⟨other, hother, hin, rfl⟩
    cases hread.symm.trans hother
    exact ⟨hvalue, hrange.mp hin⟩
  · rintro ⟨rfl, hlt⟩
    exact ⟨numeral, hread, hrange.mpr hlt, hvalue⟩

theorem refusal_fixed (filter : String) (units : Int) (places : Nat) :
    refusal filter (Decimal.fixed units places) =
      .outOfRange filter (Decimal.fixed units places) := by
  obtain ⟨numeral, hread, -⟩ := Numeral.ofChars?_fixed units places
  rw [refusal, hread]

namespace Rounding

/-- A number that has no more places than asked for stays as it is. -/
theorem units_units (r : Rounding) (n : Int) : r.units ⟨n, -r.places⟩ = n := by
  cases r with
  | up => exact Decimal.ceil_ofInt n
  | down => exact Decimal.floor_ofInt n
  | nearest places =>
    rw [units, Rounding.places, Decimal.shift_units]
    exact Decimal.round_ofInt n

/-- Rounding leads at most up to a bound that the number is below. -/
theorem natAbs_units_le (r : Rounding) {d : Decimal} {bound : Nat}
    (h : d.numerator.natAbs < bound * d.denominator) :
    (r.units d).natAbs ≤ bound * 10 ^ r.places := by
  cases r with
  | up => exact Nat.le_trans (Decimal.natAbs_ceil_le h) (Nat.le_of_eq (Nat.mul_one bound).symm)
  | down => exact Nat.le_trans (Decimal.natAbs_floor_le h) (Nat.le_of_eq (Nat.mul_one bound).symm)
  | nearest places => exact Decimal.natAbs_round_le (Decimal.natAbs_numerator_shift_lt places h)

/-- Filters that round can follow each other. The result of one of them is a number of at
    most the magnitude that is no longer in range. Unless it is of that very magnitude, each
    such filter takes it, and the same filter leaves it as it is; otherwise each of them
    refuses it. -/
theorem chain_spec {r s : Rounding} (hr : r.places ≤ maxPrecision)
    (hs : s.places ≤ maxPrecision) {render : Renderer} {value result : String}
    (h : r.filter.apply render value = .ok result) :
    ∃ n : Int, result = Decimal.fixed n r.places ∧
      n.natAbs ≤ Numeral.magnitudeBound * 10 ^ r.places ∧
      (n.natAbs ≠ Numeral.magnitudeBound * 10 ^ r.places →
        (∃ next, s.filter.apply render result = .ok next) ∧
          r.filter.apply render result = .ok result) ∧
      (n.natAbs = Numeral.magnitudeBound * 10 ^ r.places →
        s.filter.apply render result =
          .error (.render ⟨.invalidFilterInput, .outOfRange s.name result, none⟩)) := by
  obtain ⟨d, hd, rfl⟩ := (apply_filter_eq_ok_iff hr).mp h
  have hle := r.natAbs_units_le hd.lt
  refine ⟨r.units d, rfl, hle, fun hne => ?_, fun heq => ?_⟩
  · have hnumber : IsNumber (Decimal.fixed (r.units d) r.places) ⟨r.units d, -r.places⟩ :=
      isNumber_fixed_iff.mpr ⟨rfl, Nat.lt_of_le_of_ne hle hne⟩
    refine ⟨⟨_, (apply_filter_eq_ok_iff hs).mpr ⟨_, hnumber, rfl⟩⟩, ?_⟩
    exact (apply_filter_eq_ok_iff hr).mpr ⟨_, hnumber, by rw [units_units]⟩
  · refine (apply_filter_eq_error_iff hs).mpr ⟨fun d' hnumber => ?_, by rw [refusal_fixed]⟩
    have hlt := (isNumber_fixed_iff.mp hnumber).2
    omega

/-- A price with two places can have the next whole number taken, or two places again. -/
theorem chain_spec_price :
    (Rounding.nearest 2).filter.apply (fun text => .ok text) "1.005" = .ok "1.01" ∧
      (∃ next, Rounding.up.filter.apply (fun text => .ok text) "1.01" = .ok next) ∧
        (Rounding.nearest 2).filter.apply (fun text => .ok text) "1.01" = .ok "1.01" := by
  have hround : (Rounding.nearest 2).filter.apply (fun text => .ok text) "1.005" = .ok "1.01" := by
    decide +kernel
  obtain ⟨n, hresult, -, hnext, -⟩ :=
    chain_spec (r := .nearest 2) (s := .up) (by decide) (by decide) hround
  have hnumber : IsNumber "1.01" ⟨101, -2⟩ :=
    ⟨⟨false, ['1'], ['0', '1'], 0⟩, by decide +kernel, by decide +kernel, by decide⟩
  rw [hresult] at hnumber
  exact ⟨hround, hnext (Nat.ne_of_lt (isNumber_fixed_iff.mp hnumber).2)⟩

/-- Not every result can be rounded again: half a unit below the bound is rounded up to
    the bound, which is out of range. -/
theorem not_forall_chained :
    ¬ ∀ (r s : Rounding) (value result : String), r.places ≤ maxPrecision →
      s.places ≤ maxPrecision → r.filter.apply (fun text => .ok text) value = .ok result →
        ∃ next, s.filter.apply (fun text => .ok text) result = .ok next := by
  intro h
  have hpos : 0 < Numeral.magnitudeBound := by decide +kernel
  have hnumber : IsNumber (Decimal.fixed (10 * Numeral.magnitudeBound - 5) 1)
      ⟨10 * Numeral.magnitudeBound - 5, -1⟩ := by
    refine isNumber_fixed_iff.mpr ⟨rfl, ?_⟩
    omega
  obtain ⟨next, hnext⟩ := h (.nearest 0) (.nearest 0) _ _ (Nat.zero_le _) (Nat.zero_le _)
    ((apply_filter_eq_ok_iff (Nat.zero_le _)).mpr
      ⟨_, hnumber, congrArg (Decimal.fixed · 0) (Decimal.round_half_below hpos).symm⟩)
  obtain ⟨d, hbound, -⟩ := (apply_filter_eq_ok_iff (Nat.zero_le _)).mp hnext
  have hlt := (isNumber_fixed_iff.mp hbound).2
  -- Only that the bound is one number counts from here on, not which one it is.
  generalize Numeral.magnitudeBound = bound at hlt
  simp at hlt

end Rounding

end StaticPages.Filter
