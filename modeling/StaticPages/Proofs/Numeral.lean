import StaticPages.Proofs.Positional
import StaticPages.Proofs.Text.Space

namespace StaticPages.Numeral

section Grammar

/-- How a sign is written. -/
inductive SignText : Bool → List Char → Prop where
  | none : SignText false []
  | plus : SignText false ['+']
  | minus : SignText true ['-']

/-- How the digits of a fraction are written. A point needs no digits behind it. -/
inductive FractionText : List Char → List Char → Prop where
  | none : FractionText [] []
  | point (fraction : List Char) : FractionText fraction ('.' :: fraction)

/-- How a power of ten is written. -/
inductive PowerText : Int → List Char → Prop where
  | none : PowerText 0 []
  | power {e : Char} {negative : Bool} {sign digits : List Char} (he : e = 'e' ∨ e = 'E')
      (hsign : SignText negative sign) (hne : digits ≠ []) (hdigits : ∀ c ∈ digits, c.isDigit = true) :
      PowerText (if negative then -(Decimal.ofDigits digits) else Decimal.ofDigits digits)
        (e :: (sign ++ digits))

/-- Whether a text is a number as people write it: an optional sign, digits with an optional
    point among or around them, and an optional power of ten. -/
def IsWritten (n : Numeral) (text : List Char) : Prop :=
  ∃ sign point power, text = sign ++ (n.whole ++ (point ++ power)) ∧ SignText n.negative sign ∧
    FractionText n.fraction point ∧ PowerText n.exponent power ∧
    (∀ c ∈ n.whole ++ n.fraction, c.isDigit = true) ∧ n.whole ++ n.fraction ≠ []

theorem takeSign_append {negative : Bool} {sign rest : List Char} (hsign : SignText negative sign)
    (hrest : ∀ c, rest.head? = some c → c ≠ '+' ∧ c ≠ '-') :
    takeSign (sign ++ rest) = (negative, rest) := by
  cases hsign with
  | none =>
    rw [List.nil_append]
    unfold takeSign
    split
    · exact absurd rfl (hrest '-' rfl).2
    · exact absurd rfl (hrest '+' rfl).1
    · rfl
  | plus | minus => rfl

theorem signText_takeSign (text : List Char) :
    ∃ sign, text = sign ++ (takeSign text).2 ∧ SignText (takeSign text).1 sign := by
  unfold takeSign
  split
  · exact ⟨['-'], rfl, .minus⟩
  · exact ⟨['+'], rfl, .plus⟩
  · exact ⟨[], rfl, .none⟩

theorem fractionText_takeFraction (rest : List Char) :
    ∃ point, rest = point ++ (takeFraction rest).2 ∧ FractionText (takeFraction rest).1 point ∧
      ∀ c ∈ (takeFraction rest).1, c.isDigit = true := by
  unfold takeFraction
  split
  · next digits =>
    exact ⟨'.' :: digits.takeWhile Char.isDigit, by simp, .point _, fun c hc => Text.mem_takeWhile hc⟩
  · exact ⟨[], rfl, .none, nofun⟩

theorem ne_sign_of_isDigit {c : Char} (h : c.isDigit = true) : c ≠ '+' ∧ c ≠ '-' := by
  constructor <;> rintro rfl <;> cases h

theorem exponent?_eq_some_iff {text : List Char} {exponent : Int} :
    exponent? text = some exponent ↔ PowerText exponent text := by
  constructor
  · intro h
    unfold exponent? at h
    split at h
    · cases h
      exact .none
    · next e rest =>
      split at h
      · next he =>
        obtain ⟨sign, hrest, hsign⟩ := signText_takeSign rest
        cases htake : takeSign rest with
        | mk negative digits =>
          rw [htake] at h hrest hsign
          dsimp only at h hrest hsign
          split at h
          · cases h
          · next hdigits =>
            simp only [Bool.or_eq_true, List.isEmpty_iff, Bool.not_eq_true', not_or,
              Bool.not_eq_false, List.all_eq_true] at hdigits
            cases h
            rw [hrest]
            exact .power he hsign hdigits.1 hdigits.2
      · cases h
  · intro h
    cases h with
    | none => rfl
    | @power e negative sign digits he hsign hne hdigits =>
      have htake : takeSign (sign ++ digits) = (negative, digits) :=
        takeSign_append hsign fun c hc => ne_sign_of_isDigit (hdigits c (List.mem_of_mem_head? hc))
      have hgood : (digits.isEmpty || !digits.all Char.isDigit) = false := by
        simpa [hne] using hdigits
      unfold exponent?
      simp only [if_pos he, htake, hgood, Bool.false_eq_true, if_false]

theorem PowerText.stops {exponent : Int} {power : List Char} (h : PowerText exponent power) :
    Text.Stops Char.isDigit power ∧ power.head? ≠ some '.' := by
  cases h with
  | none => exact ⟨Text.stops_nil _, by simp⟩
  | power he => rcases he with rfl | rfl <;> exact ⟨Text.stops_cons.mpr rfl, by simp⟩

/-- What follows the whole digits is taken apart again. -/
theorem takeFraction_append {fraction point power : List Char} {exponent : Int}
    (hpoint : FractionText fraction point) (hdigits : ∀ c ∈ fraction, c.isDigit = true)
    (hpower : PowerText exponent power) :
    takeFraction (point ++ power) = (fraction, power) ∧
      Text.Stops Char.isDigit (point ++ power) := by
  obtain ⟨hstops, hdot⟩ := hpower.stops
  cases hpoint with
  | none =>
    refine ⟨?_, hstops⟩
    rw [List.nil_append]
    unfold takeFraction
    split
    · exact absurd rfl hdot
    · rfl
  | point =>
    refine ⟨?_, Text.stops_cons.mpr rfl⟩
    rw [List.cons_append, takeFraction, Text.takeWhile_append_of_stops hdigits hstops,
      Text.dropWhile_append_of_stops hdigits hstops]

/-- What stands behind a sign is no sign. -/
theorem head_of_digits {whole fraction point power : List Char}
    (hpoint : FractionText fraction point) (hdigits : ∀ c ∈ whole ++ fraction, c.isDigit = true)
    (hne : whole ++ fraction ≠ []) {c : Char} (hc : (whole ++ (point ++ power)).head? = some c) :
    c ≠ '+' ∧ c ≠ '-' := by
  cases whole with
  | cons first rest =>
    cases hc
    exact ne_sign_of_isDigit (hdigits _ List.mem_cons_self)
  | nil =>
    cases hpoint with
    | none => exact absurd rfl hne
    | point =>
      cases hc
      decide

/-- Exactly the numbers as people write them are read. -/
theorem ofChars?_eq_some_iff {text : List Char} {n : Numeral} :
    ofChars? text = some n ↔ n.IsWritten text := by
  constructor
  · intro h
    obtain ⟨sign, htext, hsign⟩ := signText_takeSign text
    unfold ofChars? at h
    cases htake : takeSign text with
    | mk negative unsigned =>
      rw [htake] at h htext hsign
      dsimp only at h htext hsign
      obtain ⟨point, hrest, hpoint, hfraction⟩ :=
        fractionText_takeFraction (unsigned.dropWhile Char.isDigit)
      cases hbehind : takeFraction (unsigned.dropWhile Char.isDigit) with
      | mk fraction rest =>
        rw [hbehind] at h hrest hpoint hfraction
        dsimp only at h hrest hpoint hfraction
        split at h
        · cases h
        · next hdigits =>
          obtain ⟨exponent, hexponent, rfl⟩ := Option.map_eq_some_iff.mp h
          refine ⟨sign, point, rest, ?_, hsign, hpoint, exponent?_eq_some_iff.mp hexponent, ?_, ?_⟩
          · rw [← hrest, List.takeWhile_append_dropWhile, htext]
          · exact fun c hc => (List.mem_append.mp hc).elim Text.mem_takeWhile (hfraction c)
          · simpa using hdigits
  · rintro ⟨sign, point, power, rfl, hsign, hpoint, hpower, hdigits, hne⟩
    have hwhole : ∀ c ∈ n.whole, c.isDigit = true := fun c hc => hdigits c (List.mem_append_left _ hc)
    have hfraction : ∀ c ∈ n.fraction, c.isDigit = true :=
      fun c hc => hdigits c (List.mem_append_right _ hc)
    obtain ⟨hbehind, hstops⟩ := takeFraction_append hpoint hfraction hpower
    have hsigned : takeSign (sign ++ (n.whole ++ (point ++ power))) =
        (n.negative, n.whole ++ (point ++ power)) :=
      takeSign_append hsign fun c hc => head_of_digits hpoint hdigits hne hc
    have hsome : (n.whole.isEmpty && n.fraction.isEmpty) = false := by
      simpa using hne
    unfold ofChars?
    simp only [hsigned, Text.takeWhile_append_of_stops hwhole hstops,
      Text.dropWhile_append_of_stops hwhole hstops, hbehind, hsome,
      exponent?_eq_some_iff.mpr hpower]
    rfl

theorem represents_of_ofChars? {text : List Char} {n : Numeral} (h : ofChars? text = some n) :
    n.positional.Represents n.value := by
  obtain ⟨-, -, -, -, -, -, -, hdigits, -⟩ := ofChars?_eq_some_iff.mp h
  exact represents_positional hdigits

end Grammar

/-- What is written with a fixed number of places reads as the same number. -/
theorem ofChars?_fixed (scaled : Int) (places : Nat) :
    ∃ numeral, ofChars? (Text.trimChars (Decimal.fixed scaled places).toList) = some numeral ∧
      numeral.exponent = 0 ∧ numeral.value = ⟨scaled, -places⟩ := by
  have hwhole (c : Char) := Decimal.isDigit_of_mem_wholeDigits scaled.natAbs places (c := c)
  have hfraction (c : Char) := Decimal.isDigit_of_mem_fractionDigits scaled.natAbs places (c := c)
  have hlength := Decimal.length_fractionDigits scaled.natAbs places
  have hspace : ∀ c ∈ (Decimal.fixed scaled places).toList, Text.isSpace c = false := by
    intro c hc
    simp only [Decimal.toList_fixed, List.mem_append] at hc
    rcases hc with hsign | hc | hpoint
    · split at hsign
      · rw [List.mem_singleton.mp hsign]
        rfl
      · cases hsign
    · exact Text.isSpace_of_isDigit (hwhole c hc)
    · split at hpoint
      · cases hpoint
      · rcases List.mem_cons.mp hpoint with rfl | hc
        · rfl
        · exact Text.isSpace_of_isDigit (hfraction c hc)
  have hsign : SignText (decide (scaled < 0)) (if scaled < 0 then ['-'] else []) := by
    by_cases hneg : scaled < 0
    · simpa [hneg] using SignText.minus
    · simpa [hneg] using SignText.none
  have hpoint : FractionText (Decimal.fractionDigits scaled.natAbs places)
      (if places = 0 then [] else '.' :: Decimal.fractionDigits scaled.natAbs places) := by
    split
    · next hzero =>
      rw [List.length_eq_zero_iff.mp (hlength.trans hzero)]
      exact .none
    · exact .point _
  have hread : ofChars? (Decimal.fixed scaled places).toList =
      some ⟨decide (scaled < 0), Decimal.wholeDigits scaled.natAbs places,
        Decimal.fractionDigits scaled.natAbs places, 0⟩ := by
    refine ofChars?_eq_some_iff.mpr ⟨_, _, [], ?_, hsign, hpoint, .none, ?_, ?_⟩
    · rw [Decimal.toList_fixed, List.append_nil]
    · exact fun c hc => (List.mem_append.mp hc).elim (hwhole c) (hfraction c)
    · exact List.append_ne_nil_of_left_ne_nil (Decimal.wholeDigits_ne_nil scaled.natAbs places) _
  refine ⟨⟨decide (scaled < 0), Decimal.wholeDigits scaled.natAbs places,
    Decimal.fractionDigits scaled.natAbs places, 0⟩, ?_, rfl, ?_⟩
  · rw [Text.trimChars_of_forall hspace, hread]
  · simp only [value, Decimal.wholeDigits_append_fractionDigits, Decimal.ofDigits_padded, hlength,
      decide_eq_true_eq, Int.zero_sub, Decimal.mk.injEq, and_true]
    split <;> omega

end StaticPages.Numeral
