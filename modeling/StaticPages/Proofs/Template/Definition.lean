import StaticPages.Proofs.Document.Division
import StaticPages.Proofs.Document.Order
import StaticPages.Proofs.Filter.Apply

namespace StaticPages

namespace Template

/-- A placeholder is refused for its name exactly where the table has no such name. -/
theorem resolve_undefined_iff {renderer : Renderer} {table : Variables} {p : Placeholder}
    (hrenderer : ∀ text e, renderer text = .error (.render e) → e.kind ≠ .undefinedVariable) :
    (∃ e, resolve renderer table p = .error (.render e) ∧ e.kind = .undefinedVariable) ↔
      table.get? p.name = none := by
  have hfilters {raw : String} {e : RenderError}
      (h : Filter.applyAll renderer p.filters raw = .error (.render e)) :
      e.kind ≠ .undefinedVariable := by
    obtain ⟨_, filter, _, current, -, -, hfilter⟩ := Filter.applyAll_eq_error_iff.mp h
    rcases Filter.kind_of_apply hfilter with hkind | hkind | ⟨text, htext⟩
    · simp [hkind]
    · simp [hkind]
    · exact hrenderer text e htext
  constructor
  · rintro ⟨e, herror, hkind⟩
    cases resolve_eq_error_iff.mp herror with
    | undefined hname => exact hname
    | unplaced _ hfailed | placed _ hfailed =>
      have hnot := hfilters hfailed
      exact absurd hkind hnot
  · intro hname
    exact ⟨_, resolve_eq_error_iff.mpr (.undefined hname), rfl⟩

end Template

namespace Document

/-- The value that the metadata gives to a name: that of the last entry with the name as key. -/
def given? (d : Document) (name : String) : Option String :=
  (d.metadata.filter fun e => e.key == name).getLast?.map Entry.value

/-- The value that the text gives to a name: its body is the content, and its heading, if it has
    one, the title. -/
def derived? (d : Document) (name : String) : Option String :=
  if name = "content" then some d.body else if name = "title" then d.title else none

variable {d : Document} {source name : String}

theorem given?_succeeds_iff :
    (∃ value, d.given? name = some value) ↔ ∃ e ∈ d.metadata, e.key = name := by
  rw [← Option.isSome_iff_exists, given?, Option.isSome_map, List.getLast?_isSome]
  simp

theorem lookup_derivedBindings (d : Document) (name : String) :
    d.derivedBindings.reverse.lookup name = d.derived? name := by
  unfold derivedBindings derived?
  cases d.title with
  | none => rw [List.reverse_singleton, Table.lookup_cons_ite]; simp
  | some title =>
    simp only [List.reverse_cons, List.reverse_nil, List.nil_append, List.singleton_append,
      Table.lookup_cons_ite, List.lookup_nil]

theorem get?_table_metadata (d : Document) (name : String) :
    (d.table .metadata).get? name = (d.given? name).or (d.derived? name) := by
  rw [get?_table, bindings, List.reverse_append, List.lookup_append, lookup_metadataBindings,
    lookup_derivedBindings]
  rfl

theorem get?_table_derived (d : Document) (name : String) :
    (d.table .derived).get? name = (d.derived? name).or (d.given? name) := by
  rw [get?_table, bindings, List.reverse_append, List.lookup_append, lookup_metadataBindings,
    lookup_derivedBindings]
  rfl

theorem derived?_succeeds_iff :
    (∃ value, d.derived? name = some value) ↔
      name = "content" ∨ name = "title" ∧ ∃ title, d.title = some title := by
  unfold derived?
  by_cases hcontent : name = "content"
  · simp [hcontent]
  · by_cases htitle : name = "title" <;> simp [hcontent, htitle]

/-- Whichever side wins, a name has a value if either side gives it one. -/
theorem get?_table_succeeds_iff (precedence : Precedence) :
    (∃ value, (d.table precedence).get? name = some value) ↔
      (∃ value, d.given? name = some value) ∨ ∃ value, d.derived? name = some value := by
  simp only [← Option.isSome_iff_exists]
  cases precedence with
  | metadata => rw [get?_table_metadata, Option.isSome_or, Bool.or_eq_true]
  | derived => rw [get?_table_derived, Option.isSome_or, Bool.or_eq_true, or_comm]

/-- A document without a heading is accepted only if its metadata gives the title. -/
theorem exists_title_of_parse (h : parse source = .ok d) :
    (∃ title, d.title = some title) ∨ ∃ e ∈ d.metadata, e.key = "title" := by
  obtain ⟨rest, hread⟩ := exists_read_of_parse h
  have hdivides := divides_of_parse hread h
  generalize rest.ahead = text at hdivides
  cases hdivides with
  | headed => exact .inl ⟨_, rfl⟩
  | untitled _ htitle => exact .inr htitle

theorem exists_title_iff {entries : List Entry} {rest : Cursor} (h : parse source = .ok d)
    (hread : Metadata.read (Cursor.ofString source) = .ok (entries, rest)) :
    (∃ title, d.title = some title) ↔ Heading.Begins rest.ahead := by
  obtain ⟨title, after, hheading, hparse⟩ | ⟨hnot, -, hparse⟩ | ⟨-, -, _, hparse, -⟩ :=
    parse_cases hread
  · cases h.symm.trans hparse
    exact iff_of_true ⟨title, rfl⟩ (Heading.begins_of_parse hheading)
  · cases h.symm.trans hparse
    exact iff_of_false nofun hnot
  · cases h.symm.trans hparse

/-- The names in a table are the keys of the metadata, the title and the content. -/
theorem get?_table_succeeds_iff_of_parse (h : parse source = .ok d) (precedence : Precedence) :
    (∃ value, (d.table precedence).get? name = some value) ↔
      (∃ e ∈ d.metadata, e.key = name) ∨ name = "title" ∨ name = "content" := by
  rw [get?_table_succeeds_iff, given?_succeeds_iff, derived?_succeeds_iff]
  constructor
  · rintro (hgiven | hcontent | ⟨htitle, -⟩)
    · exact .inl hgiven
    · exact .inr (.inr hcontent)
    · exact .inr (.inl htitle)
  · rintro (hgiven | rfl | hcontent)
    · exact .inl hgiven
    · rcases exists_title_of_parse h with hheading | hentry
      · exact .inr (.inr ⟨rfl, hheading⟩)
      · exact .inl hentry
    · exact .inr (.inl hcontent)

/-- The table of an accepted document is complete. Its names are the keys of the metadata, the
    title and the content, so that no placeholder is refused for naming one of the two. Under
    the metadata's precedence a name has the value of the last entry with it as key, and without
    one the value that the text gives; under the other precedence it is the other way round. The
    text always gives the content, and it gives the title if a heading begins it. -/
theorem table_spec (h : parse source = .ok d) :
    (∀ precedence name, (∃ value, (d.table precedence).get? name = some value) ↔
        (∃ e ∈ d.metadata, e.key = name) ∨ name = "title" ∨ name = "content") ∧
      (∀ name, (d.table .metadata).get? name = (d.given? name).or (d.derived? name)) ∧
      (∀ name, (d.table .derived).get? name = (d.derived? name).or (d.given? name)) ∧
      (∀ entries rest, Metadata.read (Cursor.ofString source) = .ok (entries, rest) →
        ((∃ title, d.title = some title) ↔ Heading.Begins rest.ahead)) ∧
      ∀ (renderer : Renderer) (precedence : Precedence) (p : Placeholder),
        (∀ text e, renderer text = .error (.render e) → e.kind ≠ .undefinedVariable) →
        p.name = "title" ∨ p.name = "content" →
        ∀ e, Template.resolve renderer (d.table precedence) p = .error (.render e) →
          e.kind ≠ .undefinedVariable := by
  refine ⟨fun precedence name => get?_table_succeeds_iff_of_parse h precedence,
    get?_table_metadata d, get?_table_derived d, fun entries rest => exists_title_iff h, ?_⟩
  intro renderer precedence p hrenderer hname e herror hkind
  have hundefined := (Template.resolve_undefined_iff hrenderer).mp ⟨e, herror, hkind⟩
  obtain ⟨value, hvalue⟩ := (get?_table_succeeds_iff_of_parse h precedence).mpr (.inr hname)
  cases hundefined.symm.trans hvalue

/-- A title that the metadata gives beside the heading's, and a key that it gives twice. -/
theorem table_spec_twice :
    let source := ":meta\ntitle = A\ntag = x\ntag = y\n:meta\n<h1>B</h1>\nText"
    let d : Document := ⟨[⟨"title", "A"⟩, ⟨"tag", "x"⟩, ⟨"tag", "y"⟩], some "B", "\nText"⟩
    parse source = .ok d ∧ (d.table .metadata).get? "title" = some "A" ∧
      (d.table .derived).get? "title" = some "B" ∧ (d.table .derived).get? "tag" = some "y" ∧
      (d.table .metadata).get? "author" = none := by
  intro source d
  have hparse : parse source = .ok d := by decide +kernel
  obtain ⟨-, hmetadata, hderived, -⟩ := table_spec hparse
  refine ⟨hparse, hmetadata "title", hderived "title", hderived "tag", ?_⟩
  rw [hmetadata "author"]
  rfl

end Document

end StaticPages
