import Mathlib.Tactic.MkIffOfInductiveProp
import StaticPages.Proofs.Filter.Parser
import StaticPages.Proofs.Table

namespace StaticPages.Filter

open Token

namespace Name

/-- The value of the argument with a label. -/
def labelled (arguments : List Argument) (parameter : String) : Option String :=
  (arguments.find? fun a => a.label == some parameter).map Argument.value

/-- The value of an unlabelled first argument, for the parameter that it goes to. -/
def unlabelled (name : Name) (arguments : List Argument) (parameter : String) : Option String :=
  match arguments with
  | ⟨none, value⟩ :: _ => if name.positional = some parameter then some value else none
  | _ => none

/-- The value that counts for a parameter. -/
def given (name : Name) (arguments : List Argument) (parameter : String) : Option String :=
  (labelled arguments parameter).or (name.unlabelled arguments parameter)

theorem labelled_cons (a : Argument) (rest : List Argument) (parameter : String) :
    labelled (a :: rest) parameter =
      if a.label = some parameter then some a.value else labelled rest parameter := by
  unfold labelled
  rw [List.find?_cons]
  by_cases h : a.label = some parameter
  · simp [h]
  · have hne : (a.label == some parameter) = false := by simpa using h
    rw [hne, if_neg h]

/-- What is bound already comes before what the arguments add. -/
theorem lookup_bindLabelled {name : Name} {arguments : List Argument} {before bound : Bindings}
    (h : name.bindLabelled before arguments = .ok bound) (parameter : String) :
    bound.lookup parameter = (before.lookup parameter).or (labelled arguments parameter) := by
  induction arguments generalizing before with
  | nil =>
    cases h
    exact Option.or_none.symm
  | cons a rest ih =>
    obtain ⟨label, value⟩ := a
    cases label with
    | none => cases h
    | some label =>
      rw [bindLabelled] at h
      split at h
      · split at h
        · cases h
        · rw [ih h, List.lookup_append, Option.or_assoc, Table.lookup_cons_ite, labelled_cons]
          by_cases hlabel : parameter = label
          · simp [hlabel]
          · simp [hlabel, Ne.symm hlabel]
      · split at h <;> cases h

/-- A labelled value counts before an unlabelled one, wherever it stands. -/
theorem lookup_bindArguments {name : Name} {arguments : List Argument} {bound : Bindings}
    (h : name.bindArguments arguments = .ok bound) (parameter : String) :
    bound.lookup parameter = name.given arguments parameter := by
  unfold bindArguments at h
  split at h
  · next value rest =>
    split at h
    · cases h
    · next positional hpositional =>
      split at h
      · next labels hlabels =>
        cases h
        rw [List.lookup_append, lookup_bindLabelled hlabels, given, labelled_cons, unlabelled,
          Table.lookup_cons_ite, hpositional]
        simp [eq_comm]
      · cases h
  · next hlabels =>
    have hnone : name.unlabelled arguments parameter = none := by
      unfold unlabelled
      split
      · exact absurd rfl (hlabels _ _)
      · rfl
    rw [lookup_bindLabelled h, given, hnone]
    simp

end Name

/-- The number that digits stand for. -/
def wholeOf (digits : String) : Nat :=
  Decimal.ofDigits digits.toList

/-- Whether a text is written in digits and its number is not above a maximum. -/
def IsWhole (maximum : Nat) (text : String) : Prop :=
  text.toList ≠ [] ∧ text.toList.all Char.isDigit = true ∧ wholeOf text ≤ maximum

namespace Name

/-- The parameters that take whole numbers, with the largest that each takes. -/
def numbers : Name → List (String × Nat)
  | round => [("precision", maxPrecision)]
  | replace => [("limit", maxWhole)]
  | truncate => [("characters", maxWhole)]
  | _ => []

/-- The filter of a name with values for its parameters. A parameter without a value has
    its default. -/
def fill (name : Name) (values : String → Option String) : Filter :=
  match name with
  | ceil => .ceil
  | floor => .floor
  | round => .round (Decimal.ofNat (((values "precision").map wholeOf).getD 0))
  | text => .text (((values "case").bind TextCase.ofName?).getD .lower)
  | lowercase => .text .lower
  | uppercase => .text .upper
  | markdown => .markdown
  | replace =>
    .replace ((values "find").getD "") ((values "replacement").getD "")
      ((values "limit").map wholeOf)
  | reverse => .reverse
  | truncate =>
    .truncate (((values "characters").map wholeOf).getD 100) ((values "trail").getD "...")

/-- Whether the values that count can be read: whole numbers up to their maximum, and the
    name of a case. -/
@[mk_iff]
structure Readable (name : Name) (values : String → Option String) : Prop where
  numbers : ∀ parameter maximum, (parameter, maximum) ∈ name.numbers →
    ∀ text, values parameter = some text → IsWhole maximum text
  cases : "case" ∈ name.parameters →
    ∀ text, values "case" = some text → (TextCase.ofName? text).isSome = true

/-- A number is read if the text that counts for its parameter is a whole number. -/
theorem map_whole?_eq_ok_iff {name : Name} {parameter : String} {maximum : Nat}
    {bound : Bindings} {values : String → Option String}
    (hbound : ∀ parameter, bound.lookup parameter = values parameter)
    (hmaximum : maximum ≤ maxWhole) (make : Option Nat → Filter) {filter : Filter} :
    (name.whole? parameter maximum bound).map make = .ok filter ↔
      (∀ text, values parameter = some text → IsWhole maximum text) ∧
        filter = make ((values parameter).map wholeOf) := by
  unfold whole?
  rw [hbound]
  cases values parameter with
  | none => simpa [Except.map] using eq_comm
  | some text =>
    cases hread : name.whole parameter maximum text with
    | ok n =>
      obtain ⟨hne, hall, rfl, -, hle⟩ := whole_eq_ok_iff.mp hread
      have hwhole : IsWhole maximum text := ⟨hne, hall, hle⟩
      simpa [hread, Except.map, hwhole, wholeOf] using eq_comm
    | error p =>
      have hnot : ¬ IsWhole maximum text := by
        rintro ⟨hne, hall, hle⟩
        have hok : name.whole parameter maximum text = .ok (wholeOf text) :=
          whole_eq_ok_iff.mpr ⟨hne, hall, rfl, Nat.le_trans hle hmaximum, hle⟩
        cases hread.symm.trans hok
      simp [hread, Except.map, hnot]

theorem build_eq_ok_iff {name : Name} {bound : Bindings} {values : String → Option String}
    (hbound : ∀ parameter, bound.lookup parameter = values parameter) {filter : Filter} :
    name.build bound = .ok filter ↔ name.Readable values ∧ filter = name.fill values := by
  rw [readable_iff]
  cases name with
  | round =>
    rw [build, map_whole?_eq_ok_iff hbound (by decide)]
    simp [numbers, parameters, fill]
  | replace =>
    rw [build, map_whole?_eq_ok_iff hbound (by decide)]
    simp [numbers, parameters, fill, hbound]
  | truncate =>
    rw [build, map_whole?_eq_ok_iff hbound (by decide)]
    simp [numbers, parameters, fill, hbound]
  | text =>
    rw [build, hbound]
    cases hvalue : values "case" with
    | none => simpa [numbers, parameters, fill, hvalue] using eq_comm
    | some text =>
      cases hcase : TextCase.ofName? text with
      | none => simp [numbers, parameters, hcase]
      | some textCase => simpa [numbers, parameters, fill, hvalue, hcase] using eq_comm
  | _ => simpa [build, numbers, parameters, fill] using eq_comm

end Name

/-- Whether a number is what the digits given to a parameter mean, or the default where
    nothing is given, and not above a maximum. -/
def FromDigits (name : Name) (arguments : List Argument) (parameter : String) (maximum : Nat)
    (default found : Option Nat) : Prop :=
  (∀ n, found = some n → n ≤ maximum) ∧
    match name.given arguments parameter with
    | none => found = default
    | some digits => digits.toList ≠ [] ∧ digits.toList.all Char.isDigit = true ∧
        found = some (Decimal.ofDigits digits.toList)

/-- Whether the numbers of a filter are those that its arguments give. -/
def NumbersFrom (name : Name) (arguments : List Argument) : Filter → Prop
  | round precision => ∃ n, precision = Decimal.ofNat n ∧
      FromDigits name arguments "precision" maxPrecision (some 0) (some n)
  | replace _ _ limit => FromDigits name arguments "limit" maxWhole none limit
  | truncate characters _ =>
      FromDigits name arguments "characters" maxWhole (some 100) (some characters)
  | _ => True

theorem fromDigits_of_isWhole {name : Name} {arguments : List Argument} {parameter : String}
    {maximum : Nat}
    (h : ∀ text, name.given arguments parameter = some text → IsWhole maximum text)
    (default : Option Nat) (hdefault : ∀ n, default = some n → n ≤ maximum) :
    FromDigits name arguments parameter maximum default
      (((name.given arguments parameter).map wholeOf).or default) := by
  unfold FromDigits
  cases hgiven : name.given arguments parameter with
  | none => exact ⟨hdefault, rfl⟩
  | some digits =>
    obtain ⟨hne, hall, hle⟩ := h digits hgiven
    refine ⟨?_, hne, hall, rfl⟩
    rintro n hn
    cases hn
    exact hle

theorem numbersFrom_fill {name : Name} {arguments : List Argument}
    (h : name.Readable (name.given arguments)) :
    (name.fill (name.given arguments)).NumbersFrom name arguments := by
  have hgetD (found : Option Nat) (n : Nat) : found.or (some n) = some (found.getD n) := by
    cases found <;> rfl
  cases name with
  | round =>
    have hdigits := fromDigits_of_isWhole (h.numbers "precision" maxPrecision (by decide))
      (some 0) (by simp)
    rw [hgetD] at hdigits
    exact ⟨_, rfl, hdigits⟩
  | replace =>
    have hdigits := fromDigits_of_isWhole (h.numbers "limit" maxWhole (by decide)) none (by simp)
    rwa [Option.or_none] at hdigits
  | truncate =>
    have hdigits := fromDigits_of_isWhole (h.numbers "characters" maxWhole (by decide))
      (some 100) (by simp [maxWhole])
    rwa [hgetD] at hdigits
  | _ => trivial

theorem numbersFrom_of_apply {name : Name} {arguments : List Argument} {filter : Filter}
    (h : name.apply arguments = .ok filter) : filter.NumbersFrom name arguments := by
  unfold Name.apply at h
  split at h
  · next bound hbound =>
    obtain ⟨hreadable, rfl⟩ := (Name.build_eq_ok_iff (Name.lookup_bindArguments hbound)).mp h
    exact numbersFrom_fill hreadable
  · cases h

/-- A filter is written as a name and arguments, and its numbers are those written there. -/
theorem numbersFrom_of_parse {c d : Cursor} {filter : Filter} (h : parse c = .ok (filter, d)) :
    ∃ written named name given, identifier c.skipBlanks = .ok (written, named) ∧
      Name.ofText? written = some name ∧ arguments named = .ok (given, d) ∧
      filter.NumbersFrom name given := by
  obtain ⟨written, given, hwritten⟩ := exists_isWritten_of_parse h
  obtain ⟨-, name, hname, happly⟩ := (parse_eq_ok_iff hwritten).mp h
  obtain ⟨named, hnamed, hgiven⟩ := hwritten
  exact ⟨written, named, name, given, hnamed, hname, hgiven, numbersFrom_of_apply happly⟩

/-- The numbers that arguments give are within the limits of their parameters. -/
theorem NumbersFrom.withinLimits {name : Name} {arguments : List Argument} {filter : Filter}
    (h : filter.NumbersFrom name arguments) : filter.WithinLimits := by
  cases filter with
  | round precision =>
    obtain ⟨n, rfl, hle, -⟩ := h
    exact ⟨n, hle n rfl, rfl⟩
  | replace find replacement limit => exact h.1
  | truncate characters trail => exact h.1 characters rfl
  | _ => trivial

theorem withinLimits_of_parse {c d : Cursor} {filter : Filter} (h : parse c = .ok (filter, d)) :
    filter.WithinLimits := by
  obtain ⟨_, _, _, _, _, _, _, hnumbers⟩ := numbersFrom_of_parse h
  exact hnumbers.withinLimits

end StaticPages.Filter
