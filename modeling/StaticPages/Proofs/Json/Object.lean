import StaticPages.Json.Basic

namespace StaticPages.Json

/-- The value that some keys lead to, one object after another. -/
def valueAt? : Json → List String → Option Json
  | value, [] => some value
  | .object fields, key :: keys => (fields.lookup key).bind fun value => value.valueAt? keys
  | _, _ :: _ => none

theorem valueAt?_singleton (fields : List (String × Json)) (key : String) :
    (object fields).valueAt? [key] = fields.lookup key := by
  rw [valueAt?]
  cases fields.lookup key <;> rfl

/-- Those of some fields that have a value. -/
def presentFields (entries : List (String × Option Json)) : List (String × Json) :=
  entries.filterMap fun (key, value?) => value?.map fun value => (key, value)

section Present

variable {key : String} {value? : Option Json} {entries : List (String × Option Json)}

theorem presentFields_none : presentFields ((key, none) :: entries) = presentFields entries :=
  rfl

theorem presentFields_some (value : Json) :
    presentFields ((key, some value) :: entries) = (key, value) :: presentFields entries :=
  rfl

theorem mem_of_mem_presentFields {field : String × Json} (h : field ∈ presentFields entries) :
    (field.1, some field.2) ∈ entries := by
  obtain ⟨⟨key, value?⟩, hmem, hfield⟩ := List.mem_filterMap.mp h
  obtain ⟨value, rfl, rfl⟩ := Option.map_eq_some_iff.mp hfield
  exact hmem

theorem not_mem_keys_presentFields (h : key ∉ entries.map Prod.fst) :
    key ∉ (presentFields entries).map Prod.fst := by
  intro hmem
  obtain ⟨field, hfield, rfl⟩ := List.mem_map.mp hmem
  exact h (List.mem_map.mpr ⟨_, mem_of_mem_presentFields hfield, rfl⟩)

theorem nodup_presentFields (h : (entries.map Prod.fst).Nodup) :
    ((presentFields entries).map Prod.fst).Nodup := by
  induction entries with
  | nil => exact List.nodup_nil
  | cons entry entries ih =>
    obtain ⟨key, value?⟩ := entry
    rw [List.map_cons, List.nodup_cons] at h
    cases value? with
    | none => exact ih h.2
    | some value => exact List.nodup_cons.mpr ⟨not_mem_keys_presentFields h.1, ih h.2⟩

theorem lookup_of_not_mem {fields : List (String × Json)} (h : key ∉ fields.map Prod.fst) :
    fields.lookup key = none := by
  rw [List.lookup_eq_none_iff]
  intro field hfield
  exact bne_iff_ne.mpr fun heq => h (List.mem_map.mpr ⟨field, hfield, heq.symm⟩)

theorem lookup_presentFields (hdistinct : (entries.map Prod.fst).Nodup)
    (h : (key, value?) ∈ entries) : (presentFields entries).lookup key = value? := by
  induction entries with
  | nil => cases h
  | cons entry entries ih =>
    obtain ⟨first, given?⟩ := entry
    rw [List.map_cons, List.nodup_cons] at hdistinct
    obtain ⟨hfresh, hdistinct⟩ := hdistinct
    rcases List.mem_cons.mp h with heq | hmem
    · cases heq
      cases value? with
      | none =>
        rw [presentFields_none]
        exact lookup_of_not_mem (not_mem_keys_presentFields hfresh)
      | some value => rw [presentFields_some, List.lookup_cons_self]
    · have hne : (key == first) = false :=
        beq_false_of_ne fun heq => hfresh (heq ▸ List.mem_map.mpr ⟨_, hmem, rfl⟩)
      cases given? with
      | none => exact ih hdistinct hmem
      | some value => rw [presentFields_some, List.lookup_cons, hne]; exact ih hdistinct hmem

end Present

end StaticPages.Json
