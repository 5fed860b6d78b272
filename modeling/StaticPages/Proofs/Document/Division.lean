import StaticPages.Document.Basic
import StaticPages.Proofs.Document.Block
import StaticPages.Proofs.Document.Title

namespace StaticPages

namespace Metadata

variable {c d : Cursor}

theorem read_reaches {entries : List Entry} (h : read c = .ok (entries, d)) : c.Reaches d := by
  unfold read at h
  split at h
  · next found rest hblock =>
    cases h
    cases found with
    | none =>
      obtain ⟨rfl, -⟩ := block_eq_none_iff.mp hblock
      exact Cursor.Reaches.refl d
    | some found => exact (block_eq_some hblock).1
  · cases h

theorem kind_of_read {e : RenderError} (h : read c = .error e) :
    e.kind = .malformedMetadataBlock := by
  unfold read at h
  split at h
  · cases h
  · next f hblock =>
    cases h
    rw [RenderError.ofFailure, (block_eq_error hblock).1]
    rfl

end Metadata

namespace Document

/-- How a document divides the text behind its metadata. With a heading it is white space, what
    opens the heading, the text that the title is trimmed from, what closes it, and the body.
    Without one all of it is the body, and the metadata has to give the title. -/
inductive Divides : Document → List Char → Prop
  | headed {entries : List Entry} {space opener raw closer body : List Char}
      (hspace : ∀ x ∈ space, Text.isSpace x = true)
      (hheading : Heading.Written opener raw closer body) :
      Divides ⟨entries, some (Text.trim (String.ofList raw)), String.ofList body⟩
        (space ++ (opener ++ (raw ++ (closer ++ body))))
  | untitled {entries : List Entry} {text : List Char} (hheading : ¬ Heading.Begins text)
      (htitle : ∃ e ∈ entries, e.key = "title") :
      Divides ⟨entries, none, String.ofList text⟩ text

theorem declaresTitle_iff {entries : List Entry} :
    declaresTitle entries = true ↔ ∃ e ∈ entries, e.key = "title" := by
  simp [declaresTitle]

section Parse

variable {source : String} {entries : List Entry} {rest : Cursor} {d : Document}

theorem parse_of_read (h : Metadata.read (Cursor.ofString source) = .ok (entries, rest)) :
    parse source =
      match Heading.parse rest with
      | .ok (title, after) => .ok ⟨entries, some title, after.fragment⟩
      | .error f =>
        if declaresTitle entries then .ok ⟨entries, none, rest.fragment⟩
        else .error (.ofFailure f .missingTitle) := by
  cases hheading : Heading.parse rest <;> simp only [parse, h, hheading]

/-- The three outcomes behind the metadata: a heading, a title among the entries, or neither. -/
theorem parse_cases (h : Metadata.read (Cursor.ofString source) = .ok (entries, rest)) :
    (∃ title after, Heading.parse rest = .ok (title, after) ∧
        parse source = .ok ⟨entries, some title, after.fragment⟩) ∨
      (¬ Heading.Begins rest.ahead ∧ (∃ e ∈ entries, e.key = "title") ∧
        parse source = .ok ⟨entries, none, rest.fragment⟩) ∨
      (¬ Heading.Begins rest.ahead ∧ (∀ e ∈ entries, e.key ≠ "title") ∧
        ∃ e, parse source = .error e ∧ e.kind = .missingTitle) := by
  rw [parse_of_read h]
  cases hheading : Heading.parse rest with
  | ok found => exact .inl ⟨found.1, found.2, rfl, rfl⟩
  | error f =>
    have hnot : ¬ Heading.Begins rest.ahead := by
      rw [← Heading.parse_succeeds_iff, hheading]
      nofun
    cases htitle : declaresTitle entries with
    | true => exact .inr (.inl ⟨hnot, declaresTitle_iff.mp htitle, rfl⟩)
    | false =>
      have hnone : ∀ e ∈ entries, e.key ≠ "title" := by
        intro e he hkey
        rw [declaresTitle_iff.mpr ⟨e, he, hkey⟩] at htitle
        cases htitle
      refine .inr (.inr ⟨hnot, hnone, _, rfl, ?_⟩)
      rw [RenderError.ofFailure, Heading.kind_of_parse hheading]
      rfl

theorem exists_read_of_parse (h : parse source = .ok d) :
    ∃ rest, Metadata.read (Cursor.ofString source) = .ok (d.metadata, rest) := by
  cases hread : Metadata.read (Cursor.ofString source) with
  | error e =>
    rw [parse, hread] at h
    cases h
  | ok found =>
    obtain ⟨entries, rest⟩ := found
    obtain ⟨_, _, -, hparse⟩ | ⟨-, -, hparse⟩ | ⟨-, -, _, hparse, -⟩ := parse_cases hread
    · cases h.symm.trans hparse
      exact ⟨rest, rfl⟩
    · cases h.symm.trans hparse
      exact ⟨rest, rfl⟩
    · cases h.symm.trans hparse

theorem divides_of_parse (hread : Metadata.read (Cursor.ofString source) = .ok (entries, rest))
    (h : parse source = .ok d) : Divides d rest.ahead := by
  obtain ⟨title, after, hheading, hparse⟩ | ⟨hnot, htitle, hparse⟩ | ⟨-, -, _, hparse, -⟩ :=
    parse_cases hread
  · cases h.symm.trans hparse
    obtain ⟨-, space, opener, raw, closer, hahead, hspace, hwritten, rfl⟩ :=
      Heading.parse_eq_ok_iff.mp hheading
    rw [hahead]
    exact .headed hspace hwritten
  · cases h.symm.trans hparse
    exact .untitled hnot htitle
  · cases h.symm.trans hparse

theorem parse_of_divides
    (hread : Metadata.read (Cursor.ofString source) = .ok (d.metadata, rest))
    (h : Divides d rest.ahead) : parse source = .ok d := by
  generalize htext : rest.ahead = text at h
  cases h with
  | headed hspace hwritten =>
    obtain ⟨after, hafter, rfl⟩ := Heading.parse_reads htext hspace hwritten
    rw [parse_of_read hread, hafter]
    rfl
  | untitled hnot htitle =>
    subst htext
    obtain ⟨title, after, hheading, -⟩ | ⟨-, -, hparse⟩ | ⟨-, hnone, -⟩ := parse_cases hread
    · exact absurd (Heading.begins_of_parse hheading) hnot
    · exact hparse
    · obtain ⟨e, he, hkey⟩ := htitle
      exact absurd hkey (hnone e he)

/-- A source is accepted if a heading begins behind the metadata or the metadata gives a title. -/
theorem parse_succeeds_iff
    (hread : Metadata.read (Cursor.ofString source) = .ok (entries, rest)) :
    (∃ d, parse source = .ok d) ↔
      Heading.Begins rest.ahead ∨ ∃ e ∈ entries, e.key = "title" := by
  obtain ⟨title, after, hheading, hparse⟩ | ⟨-, htitle, hparse⟩ | ⟨hnot, hnone, e, hparse, -⟩ :=
    parse_cases hread
  · exact iff_of_true ⟨_, hparse⟩ (.inl (Heading.begins_of_parse hheading))
  · exact iff_of_true ⟨_, hparse⟩ (.inr htitle)
  · refine iff_of_false ?_ ?_
    · rintro ⟨d, hd⟩
      cases hd.symm.trans hparse
    · rintro (hbegins | ⟨e, he, hkey⟩)
      · exact hnot hbegins
      · exact hnone e he hkey

theorem parse_lacks_title_iff
    (hread : Metadata.read (Cursor.ofString source) = .ok (entries, rest)) :
    (∃ e, parse source = .error e ∧ e.kind = .missingTitle) ↔
      ¬ Heading.Begins rest.ahead ∧ ∀ e ∈ entries, e.key ≠ "title" := by
  obtain ⟨title, after, hheading, hparse⟩ | ⟨-, ⟨e, he, hkey⟩, hparse⟩ | ⟨hnot, hnone, herror⟩ :=
    parse_cases hread
  · refine iff_of_false ?_ fun h => h.1 (Heading.begins_of_parse hheading)
    rintro ⟨e, he, -⟩
    cases he.symm.trans hparse
  · refine iff_of_false ?_ fun h => h.2 e he hkey
    rintro ⟨e, he, -⟩
    cases he.symm.trans hparse
  · exact iff_of_true herror ⟨hnot, hnone⟩

theorem parse_malformed_iff {e : RenderError} :
    parse source = .error e ∧ e.kind = .malformedMetadataBlock ↔
      Metadata.read (Cursor.ofString source) = .error e := by
  cases hread : Metadata.read (Cursor.ofString source) with
  | error f =>
    have hparse : parse source = .error f := by simp only [parse, hread]
    rw [hparse]
    constructor
    · rintro ⟨herror, -⟩
      cases herror
      rfl
    · intro h
      cases h
      exact ⟨rfl, Metadata.kind_of_read hread⟩
  | ok found =>
    refine iff_of_false ?_ nofun
    rintro ⟨herror, hkind⟩
    obtain ⟨_, _, -, hparse⟩ | ⟨-, -, hparse⟩ | ⟨-, -, f, hparse, hmissing⟩ := parse_cases hread
    · cases herror.symm.trans hparse
    · cases herror.symm.trans hparse
    · cases herror.symm.trans hparse
      cases hkind.symm.trans hmissing

end Parse

/-- Splitting a source into its parts loses nothing of it. It succeeds exactly if the metadata
    is read and, behind it, a heading begins or an entry has the title as its key; the parts are
    then those into which the text behind the metadata divides. It fails for the block if the
    block is malformed, and for the title otherwise. -/
theorem split_spec (source : String) :
    (∀ d, parse source = .ok d ↔ ∃ rest,
        Metadata.read (Cursor.ofString source) = .ok (d.metadata, rest) ∧
          (Cursor.ofString source).Reaches rest ∧ Divides d rest.ahead) ∧
      ((∃ d, parse source = .ok d) ↔ ∃ entries rest,
        Metadata.read (Cursor.ofString source) = .ok (entries, rest) ∧
          (Heading.Begins rest.ahead ∨ ∃ e ∈ entries, e.key = "title")) ∧
      (∀ c : Cursor, (∃ title d, Heading.parse c = .ok (title, d)) ↔ Heading.Begins c.ahead) ∧
      (∀ e, parse source = .error e ∧ e.kind = .malformedMetadataBlock ↔
        Metadata.read (Cursor.ofString source) = .error e) ∧
      ((∃ e, parse source = .error e ∧ e.kind = .missingTitle) ↔ ∃ entries rest,
        Metadata.read (Cursor.ofString source) = .ok (entries, rest) ∧
          ¬ Heading.Begins rest.ahead ∧ ∀ e ∈ entries, e.key ≠ "title") := by
  refine ⟨fun d => ⟨?_, ?_⟩, ⟨?_, ?_⟩, fun c => Heading.parse_succeeds_iff,
    fun e => parse_malformed_iff, ⟨?_, ?_⟩⟩
  · intro h
    obtain ⟨rest, hread⟩ := exists_read_of_parse h
    exact ⟨rest, hread, Metadata.read_reaches hread, divides_of_parse hread h⟩
  · rintro ⟨rest, hread, -, hdivides⟩
    exact parse_of_divides hread hdivides
  · rintro ⟨d, h⟩
    obtain ⟨rest, hread⟩ := exists_read_of_parse h
    exact ⟨_, rest, hread, (parse_succeeds_iff hread).mp ⟨d, h⟩⟩
  · rintro ⟨entries, rest, hread, hfound⟩
    exact (parse_succeeds_iff hread).mpr hfound
  · rintro ⟨e, herror, hkind⟩
    cases hread : Metadata.read (Cursor.ofString source) with
    | error f =>
      obtain ⟨hparse, hmalformed⟩ := parse_malformed_iff.mpr hread
      cases herror.symm.trans hparse
      cases hkind.symm.trans hmalformed
    | ok found =>
      exact ⟨found.1, found.2, rfl, (parse_lacks_title_iff hread).mp ⟨e, herror, hkind⟩⟩
  · rintro ⟨entries, rest, hread, hlacks⟩
    exact (parse_lacks_title_iff hread).mpr hlacks

end Document

end StaticPages
