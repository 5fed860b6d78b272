import Mathlib.Data.Rat.Floor
import Mathlib.Tactic.FieldSimp
import StaticPages.Proofs.Filter.Apply

namespace StaticPages

namespace Decimal

/-- The number as a rational one. -/
def toRat (d : Decimal) : ℚ :=
  d.mantissa * 10 ^ d.exponent

theorem toRat_eq (d : Decimal) : d.toRat = d.numerator / d.denominator := by
  have hexponent : d.exponent = d.exponent.toNat - (-d.exponent).toNat := by omega
  rw [toRat, numerator_eq, denominator_eq]
  conv_lhs => rw [hexponent, zpow_sub₀ (by norm_num), zpow_natCast, zpow_natCast]
  push_cast
  ring

theorem floor_eq (d : Decimal) : d.floor = ⌊d.toRat⌋ := by
  rw [toRat_eq, Rat.floor_intCast_div_natCast, floor, Int.fdiv_eq_ediv_of_nonneg _ (by omega)]

theorem ceil_eq (d : Decimal) : d.ceil = ⌈d.toRat⌉ := by
  rw [toRat_eq, Rat.ceil_intCast_div_natCast, ceil, Int.fdiv_eq_ediv_of_nonneg _ (by omega)]

theorem toRat_shift (d : Decimal) (places : Nat) :
    (d.shift places).toRat = d.toRat * 10 ^ places := by
  rw [toRat, toRat, shift, zpow_add₀ (by norm_num), zpow_natCast, mul_assoc]

theorem abs_toRat (d : Decimal) : |d.toRat| = d.numerator.natAbs / d.denominator := by
  rw [toRat_eq, abs_div, Nat.abs_cast, Nat.cast_natAbs, Int.cast_abs]

theorem toRat_neg_iff (d : Decimal) : d.toRat < 0 ↔ d.mantissa < 0 := by
  have hpos : (0 : ℚ) < 10 ^ d.exponent := zpow_pos (by norm_num) _
  rw [toRat, mul_neg_iff]
  simp [hpos, not_lt_of_gt hpos]

/-- Whether an integer is the nearest one to a number. Of two that are equally near it is the
    one further away from zero. -/
structure IsNearest (x : ℚ) (n : ℤ) : Prop where
  near : |x - n| ≤ 1 / 2
  away : |x - n| = 1 / 2 → |x| < |(n : ℚ)|

/-- A quotient is at most half a unit above the integer that it is rounded to, and less than
    that below it. -/
theorem halfUp_bounds (a : Nat) {b : Nat} (hb : 0 < b) :
    (((2 * a + b) / (2 * b) : Nat) : ℚ) - 1 / 2 ≤ a / b ∧
      (a / b : ℚ) < ((2 * a + b) / (2 * b) : Nat) + 1 / 2 := by
  have hle := Nat.div_mul_le_self (2 * a + b) (2 * b)
  have hlt := Nat.lt_mul_div_succ (2 * a + b) (show 0 < 2 * b by omega)
  generalize (2 * a + b) / (2 * b) = q at hle hlt
  have hbpos : (0 : ℚ) < b := by exact_mod_cast hb
  have hle' : (q * (2 * b) : ℚ) ≤ 2 * a + b := by exact_mod_cast hle
  have hlt' : (2 * a + b : ℚ) < 2 * b * (q + 1) := by exact_mod_cast hlt
  constructor
  · rw [le_div_iff₀ hbpos]
    linarith
  · rw [div_lt_iff₀ hbpos]
    linarith

theorem IsNearest.neg {x : ℚ} {n : ℤ} (h : IsNearest x n) : IsNearest (-x) (-n) := by
  have habs : |-x - ((-n : ℤ) : ℚ)| = |x - n| := by
    rw [Int.cast_neg, ← abs_neg]
    congr 1
    ring
  refine ⟨habs.trans_le h.near, fun hhalf => ?_⟩
  rw [Int.cast_neg, abs_neg, abs_neg]
  exact h.away (habs.symm.trans hhalf)

theorem isNearest_of_bounds {x : ℚ} {n : ℕ} (hx : 0 ≤ x) (hle : (n : ℚ) - 1 / 2 ≤ x)
    (hlt : x < n + 1 / 2) : IsNearest x n := by
  refine ⟨?_, fun hhalf => ?_⟩
  · rw [abs_le, Int.cast_natCast]
    constructor <;> linarith
  · rw [Int.cast_natCast] at hhalf ⊢
    rw [abs_of_nonneg hx, abs_of_nonneg (Nat.cast_nonneg n)]
    rcases abs_cases (x - n) with ⟨habs, -⟩ | ⟨habs, -⟩ <;> linarith

theorem isNearest_round (d : Decimal) : IsNearest d.toRat d.round := by
  obtain ⟨hle, hlt⟩ := halfUp_bounds d.numerator.natAbs d.denominator_pos
  rw [← abs_toRat] at hle hlt
  have hnearest := isNearest_of_bounds (abs_nonneg d.toRat) hle hlt
  unfold round
  dsimp only
  split
  · next hneg =>
    rw [abs_of_neg ((toRat_neg_iff d).mpr hneg)] at hnearest
    simpa using hnearest.neg
  · next hnonneg =>
    rwa [abs_of_nonneg (not_lt.mp fun h => hnonneg ((toRat_neg_iff d).mp h))] at hnearest

theorem round_neg_iff (d : Decimal) : d.round < 0 ↔ d.mantissa < 0 ∧ d.round ≠ 0 := by
  unfold round
  generalize (2 * d.numerator.natAbs + d.denominator) / (2 * d.denominator) = magnitude
  dsimp only
  split <;> omega

/-- Digits as a number is written with: at least one, and no zero in front of others. -/
structure IsPlain (digits : List Char) : Prop where
  ne_nil : digits ≠ []
  isDigit : ∀ c ∈ digits, c.isDigit = true
  head : digits.head? = some '0' → digits = ['0']

theorem digitChar_eq_zero : ∀ n < 10, Nat.digitChar n = '0' → n = 0 := by
  decide

theorem head_toDigits {n : Nat} (h : (Nat.toDigits 10 n).head? = some '0') : n = 0 := by
  induction n using Nat.strongRecOn with
  | _ n ih =>
    by_cases hsmall : n < 10
    · rw [Nat.toDigits_of_lt_base hsmall] at h
      exact digitChar_eq_zero n hsmall (Option.some.inj h)
    · rw [Nat.toDigits_of_base_le (by omega) (by omega),
        List.head?_append_of_ne_nil _ Nat.toDigits_ne_nil] at h
      have hzero := ih (n / 10) (by omega) h
      omega

theorem isPlain_toDigits (n : Nat) : IsPlain (Nat.toDigits 10 n) where
  ne_nil := Nat.toDigits_ne_nil
  isDigit _ hc := Nat.isDigit_of_mem_toDigits (by decide) (by decide) hc
  head h := by rw [head_toDigits h, Nat.toDigits_zero]

/-- However many places there are, no zero stands in front of the whole part but a lone one. -/
theorem isPlain_wholeDigits (n places : Nat) : IsPlain (wholeDigits n places) := by
  refine ⟨wholeDigits_ne_nil n places, fun c hc => isDigit_of_mem_wholeDigits n places hc, ?_⟩
  intro hhead
  unfold wholeDigits padded at hhead ⊢
  by_cases hshort : (Nat.toDigits 10 n).length ≤ places
  · have hlength : (List.replicate (places + 1 - (Nat.toDigits 10 n).length) '0' ++
        Nat.toDigits 10 n).length - places = 1 := by
      rw [List.length_append, List.length_replicate]
      omega
    obtain ⟨k, hk⟩ : ∃ k, places + 1 - (Nat.toDigits 10 n).length = k + 1 :=
      ⟨places - (Nat.toDigits 10 n).length, by omega⟩
    rw [hlength, hk]
    rfl
  · have hnone : places + 1 - (Nat.toDigits 10 n).length = 0 := by omega
    rw [hnone, List.replicate_zero, List.nil_append] at hhead ⊢
    rw [List.head?_take, if_neg (by omega)] at hhead
    rw [head_toDigits hhead, Nat.toDigits_zero] at hshort ⊢
    have hplaces : places = 0 := by
      rw [List.length_singleton] at hshort
      omega
    rw [hplaces]
    rfl

end Decimal

/-- The number that a numeral stands for. -/
def Numeral.toRat (n : Numeral) : ℚ :=
  (if n.negative then -1 else 1) *
    (Decimal.ofDigits n.whole + Decimal.ofDigits n.fraction / 10 ^ n.fraction.length) *
    10 ^ n.exponent

theorem Numeral.toRat_eq (n : Numeral) : n.toRat = n.value.toRat := by
  have hten : (10 : ℚ) ≠ 0 := by norm_num
  have hpow : (10 : ℚ) ^ n.fraction.length ≠ 0 := pow_ne_zero _ hten
  unfold toRat Decimal.toRat value
  dsimp only
  rw [Decimal.ofDigits_append, zpow_sub₀ hten, zpow_natCast]
  cases n.negative
  · push_cast
    field_simp
  · push_cast
    field_simp
    simp

namespace Filter

/-- Whether a value is a decimal number, of an exponent and a magnitude that are handled, and
    which number it is. -/
def Denotes (value : String) (x : ℚ) : Prop :=
  ∃ numeral : Numeral, numeral.IsWritten (Text.trimChars value.toList) ∧ numeral.toRat = x ∧
    numeral.exponent.natAbs ≤ Numeral.maxExponent ∧ |x| < Numeral.magnitudeBound

theorem inRange_iff (n : Numeral) :
    n.inRange = true ↔
      n.exponent.natAbs ≤ Numeral.maxExponent ∧ |n.toRat| < Numeral.magnitudeBound := by
  have hpos : (0 : ℚ) < n.value.denominator := by exact_mod_cast n.value.denominator_pos
  rw [Numeral.toRat_eq, Decimal.abs_toRat, div_lt_iff₀ hpos, Numeral.inRange, Bool.and_eq_true,
    decide_eq_true_eq, decide_eq_true_eq]
  exact and_congr_right fun _ => by exact_mod_cast Iff.rfl

theorem denotes_iff {value : String} {x : ℚ} :
    Denotes value x ↔ ∃ d, IsNumber value d ∧ d.toRat = x := by
  constructor
  · rintro ⟨numeral, hwritten, rfl, hrange⟩
    exact ⟨numeral.value, ⟨numeral, Numeral.ofChars?_eq_some_iff.mpr hwritten,
      (inRange_iff numeral).mpr hrange, rfl⟩, numeral.toRat_eq.symm⟩
  · rintro ⟨_, ⟨numeral, hread, hrange, rfl⟩, rfl⟩
    rw [← Numeral.toRat_eq]
    exact ⟨numeral, Numeral.ofChars?_eq_some_iff.mp hread, rfl, (inRange_iff numeral).mp hrange⟩

/-- Whether a text is a whole number without ornaments: its digits, behind a minus sign if the
    number is below zero. -/
def IsCanonical (text : String) : Prop :=
  ∃ sign digits, text.toList = sign ++ digits ∧ Decimal.IsPlain digits ∧
    (sign = [] ∨ sign = ['-'] ∧ digits ≠ ['0'])

theorem toList_toString (n : ℤ) :
    (toString n).toList = (if n < 0 then ['-'] else []) ++ Nat.toDigits 10 n.natAbs := by
  cases n with
  | ofNat m =>
    have hnonneg : ¬ Int.ofNat m < 0 := Int.not_lt.mpr (Int.natCast_nonneg m)
    rw [if_neg hnonneg]
    exact Nat.toList_repr
  | negSucc m =>
    have htext : toString (Int.negSucc m) = "-" ++ Nat.repr (m + 1) := rfl
    rw [if_pos (by omega), htext, String.toList_append, Nat.toList_repr]
    rfl

theorem isCanonical_toString (n : ℤ) : IsCanonical (toString n) := by
  refine ⟨_, _, toList_toString n, Decimal.isPlain_toDigits n.natAbs, ?_⟩
  split
  · next hneg =>
    refine .inr ⟨rfl, fun hzero => ?_⟩
    have hnone := Decimal.head_toDigits (n := n.natAbs) (by rw [hzero]; rfl)
    omega
  · exact .inl rfl

theorem fixed_zero (n : ℤ) : Decimal.fixed n 0 = toString n := by
  have hpad : 0 + 1 - (Nat.toDigits 10 n.natAbs).length = 0 := by
    have hpos : 0 < (Nat.toDigits 10 n.natAbs).length := Nat.length_toDigits_pos
    omega
  rw [← String.toList_inj, Decimal.toList_fixed, toList_toString, Decimal.wholeDigits,
    Decimal.padded, hpad]
  simp

theorem apply_filter_whole {r : Rounding} (hplaces : r.places = 0) {nearest : ℚ → ℤ}
    (hunits : ∀ d, r.units d = nearest d.toRat) {render : Renderer} {value text : String} :
    r.filter.apply render value = .ok text ↔
      ∃ x, Denotes value x ∧ text = toString (nearest x) ∧ IsCanonical text := by
  rw [Rounding.apply_filter_eq_ok_iff (hplaces.trans_le (Nat.zero_le _)), hplaces]
  constructor
  · rintro ⟨d, hd, rfl⟩
    rw [fixed_zero, hunits]
    exact ⟨d.toRat, denotes_iff.mpr ⟨d, hd, rfl⟩, rfl, isCanonical_toString _⟩
  · rintro ⟨x, hx, rfl, -⟩
    obtain ⟨d, hd, rfl⟩ := denotes_iff.mp hx
    exact ⟨d, hd, by rw [fixed_zero, hunits]⟩

/-- The filters `ceil` and `floor` give the least integer that is not below a number, and the
    greatest one that is not above it, in full. They take every decimal number in range, and
    nothing else. -/
theorem whole_spec (render : Renderer) (value text : String) :
    (Filter.ceil.apply render value = .ok text ↔
        ∃ x, Denotes value x ∧ text = toString ⌈x⌉ ∧ IsCanonical text) ∧
      (Filter.floor.apply render value = .ok text ↔
        ∃ x, Denotes value x ∧ text = toString ⌊x⌋ ∧ IsCanonical text) :=
  ⟨apply_filter_whole (r := .up) rfl Decimal.ceil_eq,
    apply_filter_whole (r := .down) rfl Decimal.floor_eq⟩

/-- Whether a text is a number rounded to so many places: the digits of the nearest number of
    units in the last place, with a point before the places and a minus sign before a number
    that is below zero and not rounded to zero. -/
def IsRounding (x : ℚ) (places : Nat) (text : String) : Prop :=
  ∃ units whole decimals, Decimal.IsNearest (x * 10 ^ places) units ∧
    text.toList = (if x < 0 ∧ units ≠ 0 then ['-'] else []) ++
      (whole ++ if places = 0 then [] else '.' :: decimals) ∧
    Decimal.ofDigits (whole ++ decimals) = units.natAbs ∧ Decimal.IsPlain whole ∧
    decimals.length = places ∧ ∀ c ∈ decimals, c.isDigit = true

theorem isRounding_fixed (d : Decimal) (places : Nat) :
    IsRounding d.toRat places (Decimal.fixed (d.shift places).round places) := by
  have hnearest := Decimal.isNearest_round (d.shift places)
  rw [Decimal.toRat_shift] at hnearest
  have hsign : (d.shift places).round < 0 ↔ d.toRat < 0 ∧ (d.shift places).round ≠ 0 :=
    (Decimal.round_neg_iff _).trans (and_congr_left' (Decimal.toRat_neg_iff d).symm)
  refine ⟨(d.shift places).round, Decimal.wholeDigits (d.shift places).round.natAbs places,
    Decimal.fractionDigits (d.shift places).round.natAbs places, hnearest, ?_, ?_,
    Decimal.isPlain_wholeDigits _ places, Decimal.length_fractionDigits _ places,
    fun c hc => Decimal.isDigit_of_mem_fractionDigits _ places hc⟩
  · rw [Decimal.toList_fixed]
    simp only [hsign]
  · rw [Decimal.wholeDigits_append_fractionDigits, Decimal.ofDigits_padded]

/-- The filter `round` gives a number rounded to the places it is asked for, a half away from
    zero. It takes every decimal number in range, and nothing else. -/
theorem round_spec {places : Nat} (h : places ≤ maxPrecision) (render : Renderer) (value : String) :
    (∀ x, Denotes value x → ∃ text,
        (Filter.round (Decimal.ofNat places)).apply render value = .ok text ∧
          IsRounding x places text) ∧
      ∀ text, (Filter.round (Decimal.ofNat places)).apply render value = .ok text →
        ∃ x, Denotes value x ∧ IsRounding x places text := by
  have hresult (text : String) :
      (Filter.round (Decimal.ofNat places)).apply render value = .ok text ↔
        ∃ d, IsNumber value d ∧ text = Decimal.fixed (d.shift places).round places :=
    Rounding.apply_filter_eq_ok_iff (r := .nearest places) h
  constructor
  · intro x hx
    obtain ⟨d, hd, rfl⟩ := denotes_iff.mp hx
    exact ⟨_, (hresult _).mpr ⟨d, hd, rfl⟩, isRounding_fixed d places⟩
  · intro text htext
    obtain ⟨d, hd, rfl⟩ := (hresult text).mp htext
    exact ⟨d.toRat, denotes_iff.mpr ⟨d, hd, rfl⟩, isRounding_fixed d places⟩

theorem round_spec_half :
    2 ≤ maxPrecision ∧
      (Filter.round (Decimal.ofNat 2)).apply (fun text => .ok text) "-1.005" = .ok "-1.01" ∧
        IsRounding (-1005 / 1000) 2 "-1.01" := by
  have hplaces : 2 ≤ maxPrecision := by decide
  have happly : (Filter.round (Decimal.ofNat 2)).apply (fun text => .ok text) "-1.005" =
      .ok "-1.01" := by decide +kernel
  have hnumber : IsNumber "-1.005" ⟨-1005, -3⟩ :=
    ⟨⟨true, ['1'], ['0', '0', '5'], 0⟩, by decide +kernel, by decide +kernel, by decide⟩
  have hdenotes : Denotes "-1.005" (-1005 / 1000) :=
    denotes_iff.mpr ⟨_, hnumber, by norm_num [Decimal.toRat]⟩
  obtain ⟨text, htext, hrounding⟩ :=
    (round_spec hplaces (fun text => .ok text) "-1.005").1 _ hdenotes
  cases htext.symm.trans happly
  exact ⟨hplaces, happly, hrounding⟩

end Filter

end StaticPages
