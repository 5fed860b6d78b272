import Mathlib.Algebra.Group.Int.Defs
import Mathlib.Algebra.Group.Nat.Defs
import StaticPages.Decimal

namespace StaticPages

namespace Decimal

section Digits

theorem ofDigits_eq (digits : List Char) : ofDigits digits = Nat.ofDigitChars 10 digits 0 :=
  Nat.ofDigitChars_eq_foldl.symm

theorem ofDigits_append (front back : List Char) :
    ofDigits (front ++ back) = ofDigits front * 10 ^ back.length + ofDigits back := by
  rw [ofDigits_eq, Nat.ofDigitChars_append, Nat.ofDigitChars_eq_ofDigitChars_zero, ofDigits_eq,
    ofDigits_eq, Nat.mul_comm]

theorem ofDigits_zeros (n : Nat) : ofDigits (List.replicate n '0') = 0 := by
  rw [ofDigits_eq, Nat.ofDigitChars_replicate_zero, Nat.mul_zero]

theorem ofDigits_cons (c : Char) (digits : List Char) :
    ofDigits (c :: digits) = (c.toNat - '0'.toNat) * 10 ^ digits.length + ofDigits digits := by
  have hfirst : ofDigits [c] = c.toNat - '0'.toNat := by simp [ofDigits]
  rw [← List.singleton_append, ofDigits_append, hfirst]

theorem isDigit_of_mem_zeros {n : Nat} {c : Char} (h : c ∈ List.replicate n '0') :
    c.isDigit = true := by
  rw [List.eq_of_mem_replicate h]
  rfl

theorem digit_le {c : Char} (h : c.isDigit = true) : c.toNat - '0'.toNat ≤ 9 := by
  have hrange := Char.isDigit_iff_toNat.mp h
  have hzero : '0'.toNat = 48 := rfl
  have hnine : '9'.toNat = 57 := rfl
  omega

theorem digit_eq_zero_iff {c : Char} (h : c.isDigit = true) : c.toNat - '0'.toNat = 0 ↔ c = '0' := by
  have hrange := Char.isDigit_iff_toNat.mp h
  have hzero : '0'.toNat = 48 := rfl
  rw [← Char.toNat_inj]
  omega

theorem ofDigits_lt {digits : List Char} (h : ∀ c ∈ digits, c.isDigit = true) :
    ofDigits digits < 10 ^ digits.length := by
  induction digits with
  | nil => decide
  | cons c rest ih =>
    obtain ⟨hc, hrest⟩ := List.forall_mem_cons.mp h
    have hdigit := digit_le hc
    have hlt := ih hrest
    have hfirst := Nat.mul_le_mul_right (10 ^ rest.length) hdigit
    rw [ofDigits_cons, List.length_cons, Nat.pow_succ]
    omega

theorem ofDigits_eq_zero_iff {digits : List Char} (h : ∀ c ∈ digits, c.isDigit = true) :
    ofDigits digits = 0 ↔ ∀ c ∈ digits, c = '0' := by
  induction digits with
  | nil => simp [ofDigits]
  | cons c rest ih =>
    obtain ⟨hc, hrest⟩ := List.forall_mem_cons.mp h
    have hpos : 0 < 10 ^ rest.length := Nat.pow_pos (by decide)
    rw [ofDigits_cons, Nat.add_eq_zero_iff, ih hrest, List.forall_mem_cons, ← digit_eq_zero_iff hc,
      Nat.mul_eq_zero, or_iff_left (Nat.ne_of_gt hpos)]

theorem ofDigits_dropWhile (digits : List Char) :
    ofDigits (digits.dropWhile (· == '0')) = ofDigits digits := by
  induction digits with
  | nil => rfl
  | cons c rest ih =>
    rw [List.dropWhile_cons]
    split
    · next hzero =>
      rw [ih, beq_iff_eq.mp hzero, ofDigits_cons, Nat.sub_self, Nat.zero_mul, Nat.zero_add]
    · rfl

end Digits

theorem ofDigits_repr (n : Nat) : ofDigits (Nat.repr n).toList = n := by
  rw [Nat.toList_repr]
  exact Nat.ofDigitChars_ten_toDigits

/-- A whole number is written in its digits, without a point. -/
theorem toText_ofNat (n : Nat) : (ofNat n).toText = Nat.repr n := by
  have hpos : 0 < (Nat.toDigits 10 n).length := Nat.length_toDigits_pos
  have hpad : 0 + 1 - (Nat.toDigits 10 n).length = 0 := by omega
  have hnumerator : (ofNat n).numerator = n := Int.mul_one _
  have hplaces : (-(ofNat n).exponent).toNat = 0 := rfl
  simp [toText, fixed, hnumerator, hplaces, hpad, Nat.repr_eq_ofList_toDigits]

section Fixed

/-- The digits of a number, with zeros before them where there are too few for the places. -/
def padded (n places : Nat) : List Char :=
  List.replicate (places + 1 - (Nat.toDigits 10 n).length) '0' ++ Nat.toDigits 10 n

/-- The digits before the point. -/
def wholeDigits (n places : Nat) : List Char :=
  (padded n places).take ((padded n places).length - places)

/-- The digits behind the point. -/
def fractionDigits (n places : Nat) : List Char :=
  (padded n places).drop ((padded n places).length - places)

theorem toList_fixed (scaled : Int) (places : Nat) :
    (fixed scaled places).toList = (if scaled < 0 then ['-'] else []) ++
      (wholeDigits scaled.natAbs places ++
        if places = 0 then [] else '.' :: fractionDigits scaled.natAbs places) := by
  simp only [fixed, String.toList_ofList, List.append_assoc]
  rfl

variable (n places : Nat)

theorem wholeDigits_append_fractionDigits :
    wholeDigits n places ++ fractionDigits n places = padded n places :=
  List.take_append_drop _ _

theorem lt_length_padded : places < (padded n places).length := by
  have hpos : 0 < (Nat.toDigits 10 n).length := Nat.length_toDigits_pos
  simp only [padded, List.length_append, List.length_replicate]
  omega

theorem wholeDigits_ne_nil : wholeDigits n places ≠ [] := by
  have hlt := lt_length_padded n places
  rw [← List.length_pos_iff, wholeDigits, List.length_take]
  omega

theorem length_fractionDigits : (fractionDigits n places).length = places := by
  have hlt := lt_length_padded n places
  rw [fractionDigits, List.length_drop]
  omega

theorem isDigit_of_mem_padded {c : Char} (h : c ∈ padded n places) : c.isDigit = true := by
  rcases List.mem_append.mp h with hzero | hdigit
  · exact isDigit_of_mem_zeros hzero
  · exact Nat.isDigit_of_mem_toDigits (by decide) (by decide) hdigit

theorem isDigit_of_mem_wholeDigits {c : Char} (h : c ∈ wholeDigits n places) :
    c.isDigit = true :=
  isDigit_of_mem_padded n places (List.mem_of_mem_take h)

theorem isDigit_of_mem_fractionDigits {c : Char} (h : c ∈ fractionDigits n places) :
    c.isDigit = true :=
  isDigit_of_mem_padded n places (List.mem_of_mem_drop h)

/-- Zeros at the front of a number do not count. -/
theorem ofDigits_padded : ofDigits (padded n places) = n := by
  rw [padded, ofDigits_append, ofDigits_zeros, Nat.zero_mul, Nat.zero_add, ofDigits_eq,
    Nat.ofDigitChars_ten_toDigits]

end Fixed

section Rounding

theorem numerator_eq (d : Decimal) : d.numerator = d.mantissa * 10 ^ d.exponent.toNat := rfl

theorem denominator_eq (d : Decimal) : d.denominator = 10 ^ (-d.exponent).toNat := rfl

/-- Moving the point multiplies the number by a power of ten. -/
theorem numerator_shift (d : Decimal) (places : Nat) :
    (d.shift places).numerator * d.denominator =
      d.numerator * 10 ^ places * (d.shift places).denominator := by
  have hexponent : (d.exponent + places).toNat + (-d.exponent).toNat =
      d.exponent.toNat + places + (-(d.exponent + places)).toNat := by omega
  simp only [numerator_eq, denominator_eq, shift, Int.natCast_pow, Int.cast_ofNat_Int]
  calc d.mantissa * 10 ^ (d.exponent + places).toNat * 10 ^ (-d.exponent).toNat
      = d.mantissa * 10 ^ ((d.exponent + places).toNat + (-d.exponent).toNat) := by
        rw [Int.pow_add, Int.mul_assoc]
    _ = d.mantissa * 10 ^ (d.exponent.toNat + places + (-(d.exponent + places)).toNat) := by
        rw [hexponent]
    _ = d.mantissa * 10 ^ d.exponent.toNat * 10 ^ places * 10 ^ (-(d.exponent + places)).toNat := by
        rw [Int.pow_add, Int.pow_add, ← Int.mul_assoc, ← Int.mul_assoc]

theorem natAbs_numerator_shift (d : Decimal) (places : Nat) :
    (d.shift places).numerator.natAbs * d.denominator =
      d.numerator.natAbs * 10 ^ places * (d.shift places).denominator := by
  have hsame := congrArg Int.natAbs (numerator_shift d places)
  have hten : (10 : Int).natAbs = 10 := rfl
  simpa only [Int.natAbs_mul, Int.natAbs_natCast, Int.natAbs_pow, hten] using hsame

/-- A number below a bound in size stays below the bound with the point moved in both. -/
theorem natAbs_numerator_shift_lt {d : Decimal} {bound : Nat} (places : Nat)
    (h : d.numerator.natAbs < bound * d.denominator) :
    (d.shift places).numerator.natAbs < bound * 10 ^ places * (d.shift places).denominator := by
  have hsame := natAbs_numerator_shift d places
  have hpos : 0 < 10 ^ places * (d.shift places).denominator :=
    Nat.mul_pos (Nat.pow_pos (by decide)) (d.shift places).denominator_pos
  have hlt := Nat.mul_lt_mul_of_pos_right h hpos
  refine Nat.lt_of_mul_lt_mul_right (a := d.denominator) ?_
  grind

theorem natAbs_fdiv_le {n : Int} {denominator bound : Nat} (hpos : 0 < denominator)
    (h : n.natAbs < bound * denominator) : (n.fdiv denominator).natAbs ≤ bound := by
  have hlt : n < bound * denominator := by omega
  have hgt : -(bound : Int) * denominator ≤ n := by
    rw [Int.neg_mul]
    omega
  rw [Int.fdiv_eq_ediv_of_nonneg n (by omega)]
  have hbelow := (Int.ediv_lt_iff_lt_mul (c := denominator) (by omega)).mpr hlt
  have habove := (Int.le_ediv_iff_mul_le (c := denominator) (by omega)).mpr hgt
  omega

theorem natAbs_floor_le {d : Decimal} {bound : Nat}
    (h : d.numerator.natAbs < bound * d.denominator) : d.floor.natAbs ≤ bound :=
  natAbs_fdiv_le d.denominator_pos h

theorem natAbs_ceil_le {d : Decimal} {bound : Nat}
    (h : d.numerator.natAbs < bound * d.denominator) : d.ceil.natAbs ≤ bound := by
  rw [ceil, Int.natAbs_neg]
  exact natAbs_fdiv_le d.denominator_pos (by rwa [Int.natAbs_neg])

theorem natAbs_round (d : Decimal) :
    d.round.natAbs = (2 * d.numerator.natAbs + d.denominator) / (2 * d.denominator) := by
  unfold round
  generalize (2 * d.numerator.natAbs + d.denominator) / (2 * d.denominator) = magnitude
  dsimp only
  split <;> omega

theorem natAbs_round_le {d : Decimal} {bound : Nat}
    (h : d.numerator.natAbs < bound * d.denominator) : d.round.natAbs ≤ bound := by
  have hpos := d.denominator_pos
  rw [natAbs_round, ← Nat.lt_add_one_iff, Nat.div_lt_iff_lt_mul (by omega)]
  grind

end Rounding

section Whole

/-- A whole number of units in the last of some places. -/
theorem numerator_units (units : Int) (places : Nat) :
    numerator ⟨units, -places⟩ = units := by
  have hexponent : (-(places : Int)).toNat = 0 := by omega
  rw [numerator, hexponent]
  exact Int.mul_one units

theorem denominator_units (units : Int) (places : Nat) :
    denominator ⟨units, -places⟩ = 10 ^ places := by
  rw [denominator, Int.neg_neg, Int.toNat_natCast]
  rfl

theorem shift_units (units : Int) (places : Nat) :
    shift ⟨units, -places⟩ places = ⟨units, 0⟩ := by
  rw [shift, Int.add_left_neg]

theorem floor_ofInt (n : Int) : floor ⟨n, 0⟩ = n := by
  simp [floor, numerator, denominator, Int.pow]

theorem ceil_ofInt (n : Int) : ceil ⟨n, 0⟩ = n := by
  simp [ceil, numerator, denominator, Int.pow]

theorem round_ofInt (n : Int) : round ⟨n, 0⟩ = n := by
  have hnumerator : numerator ⟨n, 0⟩ = n := numerator_units n 0
  have hdenominator : denominator ⟨n, 0⟩ = 1 := denominator_units n 0
  have hmagnitude : (2 * n.natAbs + 1) / (2 * 1) = n.natAbs := by omega
  simp only [round, hnumerator, hdenominator, hmagnitude]
  split <;> omega

/-- From half a unit below a whole number, rounding leads up to it. -/
theorem round_half_below {n : Nat} (h : 0 < n) : round ⟨10 * n - 5, -1⟩ = n := by
  have hmagnitude : (2 * (10 * (n : Int) - 5).natAbs + 10) / 20 = n := by omega
  have hnonneg : ¬ (10 * (n : Int) - 5) < 0 := by omega
  simp only [round, if_neg hnonneg]
  rw [show (-1 : Int) = -(1 : Nat) from rfl, numerator_units, denominator_units]
  simp [hmagnitude]

end Whole

end Decimal

end StaticPages
