import StaticPages.Filter.Apply
import StaticPages.Proofs.Filter.Parser
import StaticPages.Proofs.Numeral

namespace StaticPages.Filter

/-- Whether a value is a number that filters can handle, and which one. -/
def IsNumber (value : String) (d : Decimal) : Prop :=
  ∃ numeral, Numeral.ofChars? (Text.trimChars value.toList) = some numeral ∧
    numeral.inRange = true ∧ numeral.value = d

/-- What a filter says of a value that is no such number. -/
def refusal (filter value : String) : Cause :=
  match Numeral.ofChars? (Text.trimChars value.toList) with
  | none => .notANumber filter value
  | some _ => .outOfRange filter value

theorem number_eq_ok_iff {filter value : String} {p : Positional} :
    number filter value = .ok p ↔
      ∃ numeral, Numeral.ofChars? (Text.trimChars value.toList) = some numeral ∧
        numeral.inRange = true ∧ numeral.positional = p := by
  unfold number refuse
  cases Numeral.ofChars? (Text.trimChars value.toList) with
  | none => simp
  | some numeral => cases hrange : numeral.inRange <;> simp [hrange]

theorem number_eq_error_iff {filter value : String} {fault : Fault} :
    number filter value = .error fault ↔ (∀ d, ¬ IsNumber value d) ∧
      fault = .render ⟨.invalidFilterInput, refusal filter value, none⟩ := by
  unfold number IsNumber refusal refuse
  cases Numeral.ofChars? (Text.trimChars value.toList) with
  | none => simpa using eq_comm
  | some numeral =>
    cases hrange : numeral.inRange with
    | true => simp [hrange]
    | false => simpa [hrange] using eq_comm

/-- The ways to round a number: up, down, or to the nearest one with so many places. -/
inductive Rounding where
  | up
  | down
  | nearest (places : Nat)
  deriving DecidableEq, Repr

namespace Rounding

/-- The filter that rounds so. -/
def filter : Rounding → Filter
  | up => .ceil
  | down => .floor
  | nearest places => .round (Decimal.ofNat places)

/-- The filter's name in messages. -/
def name : Rounding → String
  | up => "ceil"
  | down => "floor"
  | nearest _ => "round"

/-- The number of places in the result. -/
def places : Rounding → Nat
  | nearest places => places
  | _ => 0

/-- The result as a whole number of units in its last place. -/
def units : Rounding → Decimal → Int
  | up, d => d.ceil
  | down, d => d.floor
  | nearest places, d => (d.shift places).round

/-- The result from the digits of a number. -/
def unitsOf : Rounding → Positional → Int
  | up, p => p.toInteger false
  | down, p => p.toInteger true
  | nearest places, p => p.round places

/-- Going by the digits of a number rounds the number. -/
theorem unitsOf_eq (r : Rounding) {p : Positional} {d : Decimal} (h : p.Represents d) :
    r.unitsOf p = r.units d := by
  cases r with
  | up => exact h.toInteger_eq.2
  | down => exact h.toInteger_eq.1
  | nearest places => exact h.round_eq places

theorem apply_filter {r : Rounding} (h : r.places ≤ maxPrecision) (render : Renderer)
    (value : String) :
    r.filter.apply render value =
      (number r.name value).map fun p => Decimal.fixed (r.unitsOf p) r.places := by
  cases r with
  | up | down => rfl
  | nearest places =>
    have hplaces : (Decimal.ofNat places).toNat? = some places := by
      simp [Decimal.toNat?, Decimal.ofNat, Decimal.numerator, Decimal.denominator, Int.pow]
    have hle : places ≤ maxPrecision := h
    simp only [filter, apply, roundValue, hplaces, if_pos hle]
    rfl

theorem apply_filter_eq_ok_iff {r : Rounding} (h : r.places ≤ maxPrecision) {render : Renderer}
    {value result : String} :
    r.filter.apply render value = .ok result ↔
      ∃ d, IsNumber value d ∧ result = Decimal.fixed (r.units d) r.places := by
  rw [apply_filter h]
  constructor
  · intro hmap
    obtain ⟨p, hp, rfl⟩ := exists_of_map_eq_ok hmap
    obtain ⟨numeral, hread, hrange, rfl⟩ := number_eq_ok_iff.mp hp
    refine ⟨numeral.value, ⟨numeral, hread, hrange, rfl⟩, ?_⟩
    rw [r.unitsOf_eq (Numeral.represents_of_ofChars? hread)]
  · rintro ⟨d, ⟨numeral, hread, hrange, rfl⟩, rfl⟩
    rw [number_eq_ok_iff.mpr ⟨numeral, hread, hrange, rfl⟩]
    exact congrArg (fun units => Except.ok (Decimal.fixed units r.places))
      (r.unitsOf_eq (Numeral.represents_of_ofChars? hread))

theorem apply_filter_eq_error_iff {r : Rounding} (h : r.places ≤ maxPrecision)
    {render : Renderer} {value : String} {fault : Fault} :
    r.filter.apply render value = .error fault ↔ (∀ d, ¬ IsNumber value d) ∧
      fault = .render ⟨.invalidFilterInput, refusal r.name value, none⟩ := by
  rw [apply_filter h, ← number_eq_error_iff]
  cases number r.name value <;> simp [Except.map]

theorem places_le_of_withinLimits {r : Rounding} (h : r.filter.WithinLimits) :
    r.places ≤ maxPrecision := by
  cases r with
  | up | down => exact Nat.zero_le _
  | nearest places =>
    obtain ⟨n, hle, hplaces⟩ := h
    cases hplaces
    exact hle

end Rounding

/-- A filter within its limits either rounds a number or takes every value. -/
theorem WithinLimits.cases {filter : Filter} (h : filter.WithinLimits) {render : Renderer}
    (hrender : ∀ text, ∃ html, render text = .ok html) :
    (∃ r : Rounding, r.places ≤ maxPrecision ∧ filter = r.filter) ∨
      ∀ value, ∃ next, filter.apply render value = .ok next := by
  cases filter with
  | ceil => exact .inl ⟨.up, Nat.zero_le _, rfl⟩
  | floor => exact .inl ⟨.down, Nat.zero_le _, rfl⟩
  | round precision =>
    obtain ⟨places, hplaces, rfl⟩ := h
    exact .inl ⟨.nearest places, hplaces, rfl⟩
  | markdown => exact .inr hrender
  | _ => exact .inr fun value => ⟨_, rfl⟩

/-- A filter's own errors are about its input or its precision. Any other error is one that the
    Markdown renderer reports. -/
theorem kind_of_apply {renderer : Renderer} {filter : Filter} {value : String} {e : RenderError}
    (h : filter.apply renderer value = .error (.render e)) :
    e.kind = .invalidFilterInput ∨ e.kind = .malformedPlaceholder ∨
      ∃ text, renderer text = .error (.render e) := by
  have hnumber {name : String} {α : Type} {f : Positional → α}
      (hmap : (number name value).map f = .error (.render e)) : e.kind = .invalidFilterInput := by
    cases hread : number name value with
    | ok p =>
      rw [hread] at hmap
      cases hmap
    | error fault =>
      rw [hread] at hmap
      cases hmap
      cases (number_eq_error_iff.mp hread).2
      rfl
  cases filter with
  | ceil | floor => exact .inl (hnumber h)
  | round precision =>
    simp only [apply, roundValue] at h
    split at h
    · cases h
      exact .inr (.inl rfl)
    · split at h
      · exact .inl (hnumber h)
      · cases h
        exact .inr (.inl rfl)
  | markdown => exact .inr (.inr ⟨value, h⟩)
  | text | replace | reverse | truncate => cases h

/-- A pipeline fails where one of its filters does, on what those before it have made of
    the value. -/
theorem applyAll_eq_error_iff {render : Renderer} {filters : List Filter} {value : String}
    {fault : Fault} :
    applyAll render filters value = .error fault ↔
      ∃ before filter after current, filters = before ++ filter :: after ∧
        applyAll render before value = .ok current ∧ filter.apply render current = .error fault := by
  induction filters generalizing value with
  | nil => simp [applyAll]
  | cons first rest ih =>
    rw [applyAll]
    cases hfirst : first.apply render value with
    | ok next =>
      simp only [ih]
      constructor
      · rintro ⟨before, filter, after, current, rfl, hbefore, hfilter⟩
        exact ⟨first :: before, filter, after, current, rfl, by simp only [applyAll, hfirst, hbefore],
          hfilter⟩
      · rintro ⟨before, filter, after, current, hsplit, hbefore, hfilter⟩
        cases before with
        | nil =>
          obtain ⟨rfl, rfl⟩ := List.cons.inj hsplit
          cases hbefore
          cases hfirst.symm.trans hfilter
        | cons head before =>
          obtain ⟨rfl, rfl⟩ := List.cons.inj hsplit
          simp only [applyAll, hfirst] at hbefore
          exact ⟨before, filter, after, current, rfl, hbefore, hfilter⟩
    | error failed =>
      constructor
      · intro h
        cases h
        exact ⟨[], first, rest, value, rfl, rfl, hfirst⟩
      · rintro ⟨before, filter, after, current, hsplit, hbefore, hfilter⟩
        cases before with
        | nil =>
          obtain ⟨rfl, rfl⟩ := List.cons.inj hsplit
          cases hbefore
          exact hfirst.symm.trans hfilter
        | cons head before =>
          obtain ⟨rfl, rfl⟩ := List.cons.inj hsplit
          simp only [applyAll, hfirst] at hbefore
          cases hbefore

end StaticPages.Filter
