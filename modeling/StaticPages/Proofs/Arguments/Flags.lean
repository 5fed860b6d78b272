import StaticPages.Arguments
import StaticPages.Proofs.Table

namespace StaticPages

/-- Whether a value stands for a flag that was given. -/
def FlagValue.IsGiven (v : FlagValue) : Prop :=
  v ≠ .off ∧ v ≠ .many []

namespace Flags

theorem set_eq_put (flags : Flags) (name : String) (value : FlagValue) :
    flags.set name value = Table.put flags name value := by
  induction flags with
  | nil => rfl
  | cons head rest ih => simp only [set, Table.put, beq_iff_eq, ih]

/-- What a flag holds after one more occurrence, which may be its first. -/
def heldAfter (old : Option FlagValue) (value : Option String) : FlagValue :=
  match old, value with
  | some old, value => join old value
  | none, some text => .one text
  | none, none => .present

theorem add_eq (flags : Flags) (name : String) (value : Option String) :
    flags.add name value =
      if name ∈ reserved then flags
      else flags.set name (heldAfter (flags.lookup name) value) := by
  unfold add heldAfter
  by_cases h : name ∈ reserved
  · simp [h]
  · cases flags.lookup name <;> cases value <;> simp [h]

theorem lookup_add (flags : Flags) (name : String) (value : Option String) (other : String) :
    (flags.add name value).lookup other =
      if other = name ∧ name ∉ reserved then some (heldAfter (flags.lookup name) value)
      else flags.lookup other := by
  rw [add_eq]
  by_cases hname : name ∈ reserved
  · simp [hname]
  · rw [if_neg hname, set_eq_put, Table.lookup_put]
    simp [hname]

/-- A flag that was first given without a value stays as it is. -/
theorem add_of_present {flags : Flags} {name : String} (h : flags.lookup name = some .present)
    (value : Option String) : flags.add name value = flags := by
  rw [add_eq, h]
  split
  · rfl
  · exact (set_eq_put flags name .present).trans (Table.put_of_lookup h)

theorem isGiven_heldAfter {old : Option FlagValue} (h : ∀ v, old = some v → v.IsGiven)
    (value : Option String) : (heldAfter old value).IsGiven := by
  cases old with
  | none => cases value <;> simp [heldAfter, FlagValue.IsGiven]
  | some v =>
    have hv := h v rfl
    cases v <;> cases value <;> simp_all [heldAfter, join, FlagValue.IsGiven]

/-- Whether every flag of a list was given. -/
def AllGiven (flags : Flags) : Prop :=
  ∀ name value, flags.lookup name = some value → value.IsGiven

theorem AllGiven.add {flags : Flags} (h : flags.AllGiven) (name : String)
    (value : Option String) : (flags.add name value).AllGiven := by
  intro other held hheld
  rw [lookup_add] at hheld
  split at hheld
  · cases hheld
    exact isGiven_heldAfter (h name) value
  · exact h other held hheld

theorem AllGiven.has_iff {flags : Flags} (h : flags.AllGiven) (name : String) :
    flags.has name = true ↔ (flags.lookup name).isSome = true := by
  unfold has
  cases hheld : flags.lookup name with
  | none => simp
  | some value =>
    obtain ⟨hoff, hmany⟩ := h name value hheld
    cases value <;> simp_all

theorem first?_eq_head? (flags : Flags) (name : String) :
    flags.first? name = (flags.values name).head? := by
  unfold first? values
  split <;> rfl

theorem values_add_of_ne (flags : Flags) {name other : String} (h : other ≠ name)
    (value : Option String) : (flags.add name value).values other = flags.values other := by
  simp [values, lookup_add, h]

/-- Once a flag has a value, every further one is kept. -/
theorem values_add_of_ne_nil {flags : Flags} {name : String} (hname : name ∉ reserved)
    (hvalues : flags.values name ≠ []) (value : Option String) :
    (flags.add name value).values name = flags.values name ++ value.toList := by
  unfold values at hvalues ⊢
  rw [lookup_add, if_pos ⟨rfl, hname⟩]
  cases hheld : flags.lookup name with
  | none => simp [hheld] at hvalues
  | some held =>
    rw [hheld] at hvalues
    cases held <;> cases value <;> simp_all [heldAfter, join]

/-- A value is kept unless the flag was given without one before. -/
theorem values_add_of_given {flags : Flags} {name : String} (hname : name ∉ reserved)
    (hgiven : flags.AllGiven) (hheld : flags.lookup name ≠ some .present) (text : String) :
    (flags.add name (some text)).values name = flags.values name ++ [text] := by
  unfold values
  rw [lookup_add, if_pos ⟨rfl, hname⟩]
  cases h : flags.lookup name with
  | none => simp [heldAfter]
  | some held =>
    obtain ⟨hoff, -⟩ := hgiven name held h
    cases held <;> simp_all [heldAfter, join]

end Flags

end StaticPages
