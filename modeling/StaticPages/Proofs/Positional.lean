import Mathlib.Tactic.Linarith
import Mathlib.Tactic.Positivity
import Mathlib.Tactic.Ring
import StaticPages.Proofs.Decimal

namespace StaticPages

namespace Decimal

theorem five_le_iff {c : Char} (h : c.isDigit = true) : '5' ≤ c ↔ 5 ≤ c.toNat - '0'.toNat := by
  have hrange := Char.isDigit_iff_toNat.mp h
  have hzero : '0'.toNat = 48 := rfl
  have hnine : '9'.toNat = 57 := rfl
  have hfive : '5' ≤ c ↔ 53 ≤ c.toNat := Iff.rfl
  rw [hfive]
  omega

/-- The integers on both sides of a number of units. -/
theorem ediv_of_lt {unit fraction : Nat} (whole : Nat) (h : fraction < unit) :
    ((whole * unit + fraction : Nat) : Int) / unit = whole ∧
      -((whole * unit + fraction : Nat) : Int) / unit =
        -((if fraction = 0 then whole else whole + 1 : Nat) : Int) := by
  have hpos : (0 : Int) < unit := by omega
  constructor
  · refine ((Int.ediv_emod_unique (r := fraction) hpos).mpr ⟨?_, by omega, by omega⟩).1
    push_cast
    ring
  · split
    · next hzero =>
      refine ((Int.ediv_emod_unique (r := 0) hpos).mpr ⟨?_, le_rfl, hpos⟩).1
      push_cast [hzero]
      ring
    · next hne =>
      refine ((Int.ediv_emod_unique (r := unit - fraction) hpos).mpr ⟨?_, by omega, by omega⟩).1
      push_cast
      ring

/-- Equal quotients round to the same integer. -/
theorem halfUp_congr {a b a' b' : Nat} (hb : 0 < b) (hb' : 0 < b') (h : a * b' = a' * b) :
    (2 * a + b) / (2 * b) = (2 * a' + b') / (2 * b') := by
  have hnumerator : (2 * a + b) * b' = (2 * a' + b') * b := by linarith
  calc (2 * a + b) / (2 * b)
      = (2 * a + b) * b' / (2 * b * b') := (Nat.mul_div_mul_right _ _ hb').symm
    _ = (2 * a' + b') * b / (2 * b' * b) := by rw [hnumerator, Nat.mul_right_comm]
    _ = (2 * a' + b') / (2 * b') := Nat.mul_div_mul_right _ _ hb

/-- The first digit that is dropped decides how a number is rounded. -/
theorem halfUp_of_digit {unit below digit : Nat} (kept : Nat) (hbelow : below < unit)
    (hdigit : digit ≤ 9) :
    (2 * ((kept * 10 + digit) * unit + below) + 10 * unit) / (2 * (10 * unit)) =
      if 5 ≤ digit then kept + 1 else kept := by
  split
  · exact Nat.div_eq_of_lt_le (by nlinarith) (by nlinarith)
  · exact Nat.div_eq_of_lt_le (by nlinarith) (by nlinarith)

theorem numerator_neg_iff (d : Decimal) : d.numerator < 0 ↔ d.mantissa < 0 := by
  have hpos : (0 : Int) < 10 ^ d.exponent.toNat := Int.pow_pos (by decide)
  rw [numerator_eq, Int.mul_neg_iff]
  omega

theorem numerator_shift_eq_zero {d : Decimal} (h : d.numerator = 0) (places : Nat) :
    (d.shift places).numerator = 0 := by
  have hshift := numerator_shift d places
  have hpos := d.denominator_pos
  rw [h, Int.zero_mul, Int.zero_mul, Int.mul_eq_zero] at hshift
  omega

end Decimal

namespace Positional

/-- The number without its sign, in units of its last place. -/
def magnitude (p : Positional) : Nat :=
  Decimal.ofDigits (p.whole ++ p.fraction)

/-- Whether a number in positional notation is a decimal number. -/
structure Represents (p : Positional) (d : Decimal) : Prop where
  numerator : d.numerator = p.signed p.magnitude
  denominator : d.denominator = 10 ^ p.fraction.length
  isDigit : ∀ c ∈ p.fraction, c.isDigit = true

end Positional

namespace Numeral

/-- Moving the point keeps the digits, but for zeros at the ends of the number. -/
theorem ofDigits_positional (n : Numeral) :
    n.positional.magnitude = Decimal.ofDigits (n.whole ++ n.fraction) * 10 ^ n.value.exponent.toNat ∧
      n.positional.fraction.length = (-n.value.exponent).toNat := by
  have hexponent : n.value.exponent = n.exponent - n.fraction.length := rfl
  obtain ⟨point, hpoint⟩ : ∃ point : Int, point = n.whole.length + n.exponent := ⟨_, rfl⟩
  obtain ⟨given, hgiven⟩ : ∃ given, given = n.whole ++ n.fraction := ⟨_, rfl⟩
  have hlength : given.length = n.whole.length + n.fraction.length := by
    rw [hgiven, List.length_append]
  let digits := List.replicate (-point).toNat '0' ++ given ++
    List.replicate (point.toNat - ((-point).toNat + given.length)) '0'
  have hdigits : Decimal.ofDigits digits =
      Decimal.ofDigits given * 10 ^ n.value.exponent.toNat := by
    have hzeros : point.toNat - ((-point).toNat + given.length) = n.value.exponent.toNat := by
      omega
    simp only [digits, Decimal.ofDigits_append, Decimal.ofDigits_zeros, List.length_replicate, hzeros,
      Nat.zero_mul, Nat.zero_add, Nat.add_zero]
  have hpositional : n.positional =
      { negative := n.negative
        whole := if ((digits.take point.toNat).dropWhile (· == '0')).isEmpty then ['0']
          else (digits.take point.toNat).dropWhile (· == '0')
        fraction := digits.drop point.toNat } := by
    simp only [positional, digits, hpoint, hgiven, List.length_append, List.length_replicate]
  have hwhole (front : List Char) :
      Decimal.ofDigits (if (front.dropWhile (· == '0')).isEmpty then ['0']
        else front.dropWhile (· == '0')) = Decimal.ofDigits front := by
    rw [← Decimal.ofDigits_dropWhile front]
    split
    · next hempty =>
      rw [List.isEmpty_iff.mp hempty]
      rfl
    · rfl
  constructor
  · rw [hpositional, Positional.magnitude, Decimal.ofDigits_append, hwhole, ← Decimal.ofDigits_append,
      List.take_append_drop, hdigits, hgiven]
  · rw [hpositional]
    simp only [digits, List.length_drop, List.length_append, List.length_replicate]
    omega

theorem represents_positional {n : Numeral} (h : ∀ c ∈ n.whole ++ n.fraction, c.isDigit = true) :
    n.positional.Represents n.value := by
  obtain ⟨hmagnitude, hlength⟩ := n.ofDigits_positional
  refine ⟨?_, ?_, ?_⟩
  · have hsign : n.positional.negative = n.negative := rfl
    rw [Decimal.numerator_eq, hmagnitude, Positional.signed, hsign]
    simp only [value]
    split <;> push_cast <;> ring
  · rw [Decimal.denominator_eq, hlength]
  · intro c hc
    have hmem := List.mem_of_mem_drop hc
    simp only [List.mem_append] at hmem h
    rcases hmem with (hzero | hgiven) | hzero
    · exact Decimal.isDigit_of_mem_zeros hzero
    · exact h c hgiven
    · exact Decimal.isDigit_of_mem_zeros hzero

end Numeral

namespace Positional

variable {p : Positional} {d : Decimal}

/-- The digits before the point and those after it make up the number. -/
theorem Represents.natAbs_numerator (h : p.Represents d) :
    d.numerator.natAbs = Decimal.ofDigits p.whole * d.denominator + Decimal.ofDigits p.fraction := by
  have hsigned : (p.signed p.magnitude).natAbs = p.magnitude := by
    unfold signed
    split <;> omega
  rw [h.numerator, hsigned, h.denominator, magnitude, Decimal.ofDigits_append]

theorem Represents.fraction_lt (h : p.Represents d) :
    Decimal.ofDigits p.fraction < d.denominator := by
  rw [h.denominator]
  exact Decimal.ofDigits_lt h.isDigit

theorem Represents.all_fraction (h : p.Represents d) :
    p.fraction.all (· == '0') = decide (Decimal.ofDigits p.fraction = 0) := by
  rw [Bool.eq_iff_iff, decide_eq_true_eq, Decimal.ofDigits_eq_zero_iff h.isDigit, List.all_eq_true]
  simp

/-- Dropping the fraction and stepping away from zero leads to the integers on both sides. -/
theorem Represents.toInteger_eq (h : p.Represents d) :
    p.toInteger true = d.floor ∧ p.toInteger false = d.ceil := by
  obtain ⟨hbelow, habove⟩ := Decimal.ediv_of_lt (Decimal.ofDigits p.whole) h.fraction_lt
  have hmagnitude : p.magnitude =
      Decimal.ofDigits p.whole * d.denominator + Decimal.ofDigits p.fraction := by
    rw [magnitude, Decimal.ofDigits_append, h.denominator]
  have hunit : (0 : Int) ≤ d.denominator := by omega
  unfold toInteger Decimal.floor Decimal.ceil
  rw [h.all_fraction, Int.fdiv_eq_ediv_of_nonneg _ hunit, Int.fdiv_eq_ediv_of_nonneg _ hunit,
    h.numerator]
  unfold signed
  rw [hmagnitude]
  cases p.negative <;> by_cases hzero : Decimal.ofDigits p.fraction = 0 <;>
    simp_all

/-- The digits that a number is rounded by: those behind the point, with zeros after them if
    there are too few. -/
def digitsFor (p : Positional) (places : Nat) : List Char :=
  p.fraction ++ List.replicate (places + 1 - p.fraction.length) '0'

theorem lt_length_digitsFor (p : Positional) (places : Nat) :
    places < (p.digitsFor places).length := by
  rw [digitsFor, List.length_append, List.length_replicate]
  omega

theorem Represents.isDigit_of_mem_digitsFor (h : p.Represents d) {places : Nat} {c : Char}
    (hc : c ∈ p.digitsFor places) : c.isDigit = true :=
  (List.mem_append.mp hc).elim (h.isDigit c) Decimal.isDigit_of_mem_zeros

/-- The digits with zeros after them are the number in units of a place further down. -/
theorem Represents.ofDigits_digitsFor (h : p.Represents d) (places : Nat) :
    (d.shift places).numerator.natAbs * 10 ^ ((p.digitsFor places).length - places) =
      Decimal.ofDigits (p.whole ++ p.digitsFor places) * (d.shift places).denominator := by
  have hdigits : Decimal.ofDigits (p.whole ++ p.digitsFor places) =
      d.numerator.natAbs * 10 ^ (places + 1 - p.fraction.length) := by
    rw [digitsFor, ← List.append_assoc, Decimal.ofDigits_append, Decimal.ofDigits_zeros,
      List.length_replicate, h.natAbs_numerator, h.denominator, ← Decimal.ofDigits_append,
      Nat.add_zero]
  have hpowers : 10 ^ ((p.digitsFor places).length - places) * 10 ^ places =
      10 ^ (places + 1 - p.fraction.length) * 10 ^ p.fraction.length := by
    rw [← Nat.pow_add, ← Nat.pow_add, Nat.sub_add_cancel (Nat.le_of_lt (lt_length_digitsFor p places)),
      digitsFor, List.length_append, List.length_replicate, Nat.add_comm]
  have hshift := Decimal.natAbs_numerator_shift d places
  rw [h.denominator] at hshift
  have hpos : 0 < 10 ^ p.fraction.length := Nat.pow_pos (by decide)
  refine Nat.eq_of_mul_eq_mul_right hpos ?_
  calc (d.shift places).numerator.natAbs * 10 ^ ((p.digitsFor places).length - places) *
          10 ^ p.fraction.length
      = (d.shift places).numerator.natAbs * 10 ^ p.fraction.length *
          10 ^ ((p.digitsFor places).length - places) := Nat.mul_right_comm _ _ _
    _ = d.numerator.natAbs * (d.shift places).denominator *
          (10 ^ ((p.digitsFor places).length - places) * 10 ^ places) := by
        rw [hshift]
        ring
    _ = Decimal.ofDigits (p.whole ++ p.digitsFor places) * (d.shift places).denominator *
          10 ^ p.fraction.length := by
        rw [hpowers, hdigits]
        ring

/-- Cutting the digits and looking at the next one rounds the magnitude. -/
theorem Represents.magnitude_round (h : p.Represents d) (places : Nat) :
    let kept := Decimal.ofDigits (p.whole ++ (p.digitsFor places).take places)
    (if '5' ≤ (p.digitsFor places).getD places '0' then kept + 1 else kept) =
      (2 * (d.shift places).numerator.natAbs + (d.shift places).denominator) /
        (2 * (d.shift places).denominator) := by
  have hunits := h.ofDigits_digitsFor places
  have hlt := lt_length_digitsFor p places
  have hisDigit : ∀ c ∈ p.digitsFor places, c.isDigit = true :=
    fun c hc => h.isDigit_of_mem_digitsFor hc
  generalize p.digitsFor places = digits at hunits hlt hisDigit ⊢
  intro kept
  -- The digits fall into those that are kept, the one that decides and those further down.
  have hsplit : p.whole ++ digits = (p.whole ++ digits.take places) ++
      digits[places] :: digits.drop (places + 1) := by
    rw [List.append_assoc, ← List.drop_eq_getElem_cons, List.take_append_drop]
  have hdigit := hisDigit _ (List.getElem_mem hlt)
  have hbelow : Decimal.ofDigits (digits.drop (places + 1)) <
      10 ^ (digits.drop (places + 1)).length :=
    Decimal.ofDigits_lt fun c hc => hisDigit c (List.mem_of_mem_drop hc)
  have hvalue : (kept * 10 + (digits[places].toNat - '0'.toNat)) *
        10 ^ (digits.drop (places + 1)).length + Decimal.ofDigits (digits.drop (places + 1)) =
      Decimal.ofDigits (p.whole ++ digits) := by
    rw [hsplit, Decimal.ofDigits_append, Decimal.ofDigits_cons, List.length_cons]
    ring
  have hunit : 10 * 10 ^ (digits.drop (places + 1)).length = 10 ^ (digits.length - places) := by
    rw [List.length_drop, ← Nat.pow_succ', Nat.succ_eq_add_one]
    congr 1
    omega
  rw [List.getD_eq_getElem?_getD, List.getElem?_eq_getElem hlt, Option.getD_some,
    if_congr (Decimal.five_le_iff hdigit) rfl rfl,
    ← Decimal.halfUp_of_digit kept hbelow (Decimal.digit_le hdigit)]
  refine (Decimal.halfUp_congr (d.shift places).denominator_pos (by positivity) ?_).symm
  rw [hvalue, hunit, hunits]

/-- Cutting the digits of a number and looking at the next one rounds the number. -/
theorem Represents.round_eq (h : p.Represents d) (places : Nat) :
    p.round places = (d.shift places).round := by
  have hmagnitude := h.magnitude_round places
  have hsign := Decimal.numerator_neg_iff d
  have hmantissa : (d.shift places).mantissa = d.mantissa := rfl
  unfold digitsFor at hmagnitude
  unfold round Decimal.round
  dsimp only at hmagnitude ⊢
  rw [hmagnitude, hmantissa]
  rw [h.numerator] at hsign
  unfold signed at hsign ⊢
  cases hnegative : p.negative with
  | false =>
    have hnonneg : ¬ d.mantissa < 0 := by
      simp only [hnegative, Bool.false_eq_true, if_false] at hsign
      omega
    rw [if_neg hnonneg]
    rfl
  | true =>
    by_cases hneg : d.mantissa < 0
    · rw [if_pos hneg]
      rfl
    · -- A minus sign before zero does not count.
      have hzero : d.numerator = 0 := by
        rw [h.numerator, signed]
        simp only [hnegative, if_true] at hsign ⊢
        omega
      have hpos := (d.shift places).denominator_pos
      have hnone : (2 * (d.shift places).numerator.natAbs + (d.shift places).denominator) /
          (2 * (d.shift places).denominator) = 0 := by
        rw [Decimal.numerator_shift_eq_zero hzero, Nat.div_eq_of_lt (by simp; omega)]
      rw [if_neg hneg, hnone]
      rfl

end Positional

end StaticPages
