namespace StaticPages.Table

variable {κ ν : Type} [DecidableEq κ]

/-- Puts a value at a key, in its place if the key is already there. -/
def put (table : List (κ × ν)) (key : κ) (value : ν) : List (κ × ν) :=
  match table with
  | [] => [(key, value)]
  | (other, old) :: rest =>
    if other = key then (key, value) :: rest else (other, old) :: put rest key value

theorem lookup_cons_ite (key other : κ) (value : ν) (rest : List (κ × ν)) :
    ((key, value) :: rest).lookup other = if other = key then some value else rest.lookup other := by
  rw [List.lookup_cons]
  by_cases h : other = key
  · simp [h]
  · have hne : (other == key) = false := by simpa using h
    simp [h, hne]

theorem lookup_put (table : List (κ × ν)) (key : κ) (value : ν) (other : κ) :
    (put table key value).lookup other =
      if other = key then some value else table.lookup other := by
  induction table with
  | nil => rw [put, lookup_cons_ite]
  | cons head rest ih =>
    obtain ⟨first, old⟩ := head
    by_cases hfirst : first = key
    · subst hfirst
      simp only [put, if_true, lookup_cons_ite]
      split <;> rfl
    · simp only [put, hfirst, if_false, lookup_cons_ite, ih]
      by_cases h : other = first
      · simp [h, hfirst]
      · simp [h]

/-- Putting at a key what is there already changes nothing. -/
theorem put_of_lookup {table : List (κ × ν)} {key : κ} {value : ν}
    (h : table.lookup key = some value) : put table key value = table := by
  induction table with
  | nil => cases h
  | cons head rest ih =>
    obtain ⟨first, old⟩ := head
    rw [lookup_cons_ite] at h
    by_cases hfirst : first = key
    · subst hfirst
      simp_all [put]
    · rw [if_neg (Ne.symm hfirst)] at h
      simp [put, hfirst, ih h]

end StaticPages.Table
