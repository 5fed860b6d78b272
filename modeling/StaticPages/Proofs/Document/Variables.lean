import StaticPages.Document.Variables
import StaticPages.Proofs.Document.Block
import StaticPages.Proofs.Table

namespace StaticPages

/-- The last binding of a name gives its value. A name without one keeps the value that
    the table has for it. -/
theorem Variables.get?_setAll (table : Variables) (bindings : List (String × String))
    (name : String) :
    (table.setAll bindings).get? name =
      (bindings.reverse.lookup name).or (table.get? name) := by
  induction bindings generalizing table with
  | nil => rfl
  | cons binding later ih =>
    obtain ⟨bound, value⟩ := binding
    have hfirst : (table.set bound value).get? name =
        ([(bound, value)].lookup name).or (table.get? name) := by
      rw [get?_set, Table.lookup_cons_ite]
      split <;> rfl
    have hset : table.setAll ((bound, value) :: later) = (table.set bound value).setAll later :=
      rfl
    rw [hset, ih, hfirst, List.reverse_cons, List.lookup_append, Option.or_assoc]

namespace Metadata

open Token

theorem isName_of_body {style : Style} {entries : List Entry} {text rest : List Char}
    (h : Body style entries text rest) : ∀ e ∈ entries, IsName e.key.toList := by
  induction h with
  | close => simp
  | empty _ _ ih | comment _ _ ih => exact ih
  | entry hfirst _ ih =>
    cases hfirst with
    | entry _ _ hkey => exact List.forall_mem_cons.mpr ⟨hkey, ih⟩

theorem isName_of_read {c d : Cursor} {entries : List Entry} (h : read c = .ok (entries, d)) :
    ∀ e ∈ entries, IsName e.key.toList := by
  unfold read at h
  split at h
  · next found rest hblock =>
    cases h
    cases found with
    | none => simp
    | some found =>
      obtain ⟨-, style, body, -, hbody⟩ := block_eq_some hblock
      exact isName_of_body hbody
  · cases h

end Metadata

namespace Document

open Token

/-- What the table of a document is made of, with those that win last. -/
def bindings (d : Document) : Precedence → List (String × String)
  | .metadata => d.derivedBindings ++ d.metadataBindings
  | .derived => d.metadataBindings ++ d.derivedBindings

/-- A variable has the value of its last binding. -/
theorem get?_table (d : Document) (precedence : Precedence) (name : String) :
    (d.table precedence).get? name = (d.bindings precedence).reverse.lookup name := by
  have htable : d.table precedence = Variables.setAll [] (d.bindings precedence) := by
    cases precedence <;> simp only [table, bindings, Variables.setAll, List.foldl_append]
  rw [htable, Variables.get?_setAll]
  exact Option.or_none

theorem isName_of_parse {source : String} {document : Document}
    (h : parse source = .ok document) : ∀ e ∈ document.metadata, IsName e.key.toList := by
  unfold parse at h
  split at h
  · cases h
  · next entries rest hread =>
    have hnames := Metadata.isName_of_read hread
    split at h
    · cases h
      exact hnames
    · split at h
      · cases h
        exact hnames
      · cases h

theorem isName_of_mem_derivedBindings {d : Document} {binding : String × String}
    (h : binding ∈ d.derivedBindings) : IsName binding.1.toList := by
  have htitle : IsName "title".toList := isName_cons rfl rfl
  have hcontent : IsName "content".toList := isName_cons rfl rfl
  unfold derivedBindings at h
  split at h <;> simp only [List.mem_cons, List.not_mem_nil, or_false] at h
  · rcases h with rfl | rfl
    · exact htitle
    · exact hcontent
  · subst h
    exact hcontent

/-- A variable's name is one that a placeholder can name. -/
theorem isName_of_get? {source : String} {document : Document}
    (h : parse source = .ok document) {precedence : Precedence} {name value : String}
    (hget : (document.table precedence).get? name = some value) : IsName name.toList := by
  rw [get?_table, List.lookup_eq_some_iff] at hget
  obtain ⟨later, earlier, hsplit, -⟩ := hget
  have hmem : (name, value) ∈ document.bindings precedence := by
    rw [← List.mem_reverse, hsplit]
    simp
  have hbound : (name, value) ∈ document.derivedBindings ∨
      (name, value) ∈ document.metadataBindings := by
    cases precedence <;> simpa only [bindings, List.mem_append, or_comm] using hmem
  rcases hbound with hderived | hmetadata
  · exact isName_of_mem_derivedBindings hderived
  · obtain ⟨e, he, heq⟩ := List.mem_map.mp hmetadata
    cases heq
    exact isName_of_parse h e he

/-- Whichever side wins, each key of the metadata is a variable. -/
theorem exists_get?_of_mem_metadata {d : Document} {e : Entry} (h : e ∈ d.metadata)
    (precedence : Precedence) : ∃ value, (d.table precedence).get? e.key = some value := by
  have hmem : (e.key, e.value) ∈ d.metadataBindings := List.mem_map_of_mem h
  have hbound : (e.key, e.value) ∈ (d.bindings precedence).reverse := by
    cases precedence <;> simp [bindings, hmem]
  rw [get?_table]
  exact Option.isSome_iff_exists.mp
    (List.lookup_isSome_iff.mpr ⟨(e.key, e.value), hbound, beq_self_eq_true _⟩)

end Document

end StaticPages
