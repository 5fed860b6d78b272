import StaticPages.Proofs.Document.Division
import StaticPages.Proofs.Document.Variables
import StaticPages.Proofs.Shift
import StaticPages.Proofs.Template.Outcome

namespace StaticPages

namespace Metadata

/-- Whether two lists of entries differ at most in the order of entries with different keys. -/
def SameByKey (entries others : List Entry) : Prop :=
  ∀ key, entries.filter (fun e => e.key == key) = others.filter (fun e => e.key == key)

end Metadata

namespace Template

variable {renderer : Renderer} {table others : Variables}

theorem resolve_congr (h : ∀ name, table.get? name = others.get? name) (p : Placeholder) :
    resolve renderer table p = resolve renderer others p := by
  unfold resolve
  rw [h]

theorem substitute_congr (h : ∀ name, table.get? name = others.get? name)
    (placeholders : List Placeholder) (text : String) :
    substitute renderer table placeholders text = substitute renderer others placeholders text := by
  induction placeholders generalizing text with
  | nil => rfl
  | cons p rest ih => simp only [substitute, resolve_congr h, ih]

/-- All that a template sees of a table is the values of names. -/
theorem render_congr (h : ∀ name, table.get? name = others.get? name) (template : String) :
    render renderer table template = render renderer others template := by
  simp only [render, substitute_congr h]

end Template

namespace Document

open Metadata (Block SameByKey)

theorem declaresTitle_eq_of_sameByKey {entries others : List Entry}
    (h : SameByKey entries others) : declaresTitle entries = declaresTitle others := by
  have hfilter (es : List Entry) :
      declaresTitle es = !(es.filter fun e => e.key == "title").isEmpty := by
    rw [declaresTitle, Bool.eq_iff_iff]
    simp
  rw [hfilter, hfilter, h]

/-- Of the entries with a key the last one counts, wherever the others stand. -/
theorem lookup_metadataBindings (d : Document) (name : String) :
    d.metadataBindings.reverse.lookup name =
      (d.metadata.filter fun e => e.key == name).getLast?.map Entry.value := by
  unfold metadataBindings
  induction d.metadata with
  | nil => rfl
  | cons e later ih =>
    rw [List.map_cons, List.reverse_cons, List.lookup_append, ih, Table.lookup_cons_ite]
    by_cases hkey : e.key = name
    · subst hkey
      cases hlast : (later.filter fun other => other.key == e.key).getLast? <;>
        simp [List.getLast?_cons, hlast]
    · have hne : (e.key == name) = false := by simpa using hkey
      simp [hne, Ne.symm hkey]

/-- Whether two documents differ at most in the order of entries with different keys. -/
structure Alike (a b : Document) : Prop where
  metadata : SameByKey a.metadata b.metadata
  title : a.title = b.title
  body : a.body = b.body

theorem Alike.derivedBindings_eq {a b : Document} (h : a.Alike b) :
    a.derivedBindings = b.derivedBindings := by
  simp only [derivedBindings, h.title, h.body]

/-- The order of entries with different keys is lost in the table, whichever side wins. -/
theorem Alike.get?_eq {a b : Document} (h : a.Alike b) (precedence : Precedence)
    (name : String) : (a.table precedence).get? name = (b.table precedence).get? name := by
  have hmetadata : a.metadataBindings.reverse.lookup name =
      b.metadataBindings.reverse.lookup name := by
    rw [lookup_metadataBindings, lookup_metadataBindings, h.metadata]
  rw [get?_table, get?_table]
  cases precedence <;>
    simp only [bindings, List.reverse_append, List.lookup_append, hmetadata, h.derivedBindings_eq]

/-- Behind a block a source is read as the rest of its text is on its own. Only the place
    of an error knows of the block. -/
theorem parse_of_block {source : String} {entries : List Entry} {rest : List Char}
    (h : Block entries source.toList rest) :
    ∃ before, parse source =
      match Heading.parse ⟨rest, Position.start⟩ with
      | .ok (title, after) => .ok ⟨entries, some title, after.fragment⟩
      | .error f =>
        if declaresTitle entries then .ok ⟨entries, none, String.ofList rest⟩
        else .error (.ofFailure (f.shift before) .missingTitle) := by
  obtain ⟨⟨ahead, position⟩, hblock, hahead⟩ :=
    Metadata.block_reads (c := Cursor.ofString source) h
  obtain rfl : ahead = rest := hahead
  obtain ⟨before, -, hposition⟩ := (Metadata.block_eq_some hblock).1
  obtain rfl : position = Position.start.shift before :=
    hposition.trans (Position.after_start before)
  have hread : Metadata.read (Cursor.ofString source) =
      .ok (entries, Cursor.shift before ⟨ahead, Position.start⟩) := by
    simp only [Metadata.read, hblock, Option.getD_some]
    rfl
  refine ⟨before, ?_⟩
  rw [parse_of_read hread, Heading.parse_shift]
  cases Heading.parse ⟨ahead, Position.start⟩ <;> rfl

/-- How the metadata is written does not matter. Take two sources with the same text behind
    their blocks, and with the same entries in them but for the order of entries with
    different keys. Either both are read and rendered with one outcome, be it a page or the
    template's error, or both lack a title and are refused with the same message. -/
theorem render_rearranged (renderer : Renderer) (precedence : Precedence) (template : String)
    {source other : String} {entries others : List Entry} {rest : List Char}
    (hsource : Block entries source.toList rest) (hother : Block others other.toList rest)
    (horder : SameByKey entries others) :
    (∃ a b, parse source = .ok a ∧ parse other = .ok b ∧ a.Alike b ∧
        (render renderer precedence source template).map Page.html =
          (render renderer precedence other template).map Page.html) ∨
      ∃ problem p q,
        parse source = .error ⟨.missingTitle, .parse problem, some p⟩ ∧
        parse other = .error ⟨.missingTitle, .parse problem, some q⟩ ∧
        render renderer precedence source template =
          .error (.render ⟨.missingTitle, .parse problem, some p⟩) ∧
        render renderer precedence other template =
          .error (.render ⟨.missingTitle, .parse problem, some q⟩) := by
  have hread {a b : Document} (ha : parse source = .ok a) (hb : parse other = .ok b)
      (halike : a.Alike b) : (render renderer precedence source template).map Page.html =
        (render renderer precedence other template).map Page.html := by
    rw [Template.map_html_render, Template.map_html_render, ha, hb]
    exact Template.render_congr (halike.get?_eq precedence) template
  obtain ⟨before, hparse⟩ := parse_of_block hsource
  obtain ⟨before', hparse'⟩ := parse_of_block hother
  rw [← declaresTitle_eq_of_sameByKey horder] at hparse'
  cases hheading : Heading.parse ⟨rest, Position.start⟩ with
  | ok found =>
    rw [hheading] at hparse hparse'
    have halike : Alike ⟨entries, some found.1, found.2.fragment⟩
        ⟨others, some found.1, found.2.fragment⟩ := ⟨horder, rfl, rfl⟩
    exact .inl ⟨_, _, hparse, hparse', halike, hread hparse hparse' halike⟩
  | error f =>
    rw [hheading] at hparse hparse'
    cases htitle : declaresTitle entries with
    | true =>
      simp only [htitle, if_true] at hparse hparse'
      have halike : Alike ⟨entries, none, String.ofList rest⟩
          ⟨others, none, String.ofList rest⟩ := ⟨horder, rfl, rfl⟩
      exact .inl ⟨_, _, hparse, hparse', halike, hread hparse hparse' halike⟩
    | false =>
      have herror (before : List Char) : RenderError.ofFailure (f.shift before) .missingTitle =
          ⟨.missingTitle, .parse f.problem, some (f.position.shift before)⟩ := by
        simp only [RenderError.ofFailure, Failure.shift, Heading.kind_of_parse hheading,
          Option.getD_some]
      simp only [htitle, Bool.false_eq_true, if_false, herror] at hparse hparse'
      have hrefused {text : String} {e : RenderError} (h : parse text = .error e) :
          render renderer precedence text template = .error (.render e) := by
        unfold render
        rw [h]
        rfl
      exact .inr ⟨f.problem, _, _, hparse, hparse', hrefused hparse, hrefused hparse'⟩

/-- Two ways to write an author who is given twice and a city of two lines. -/
theorem render_rearranged_author :
    let source := ":meta\nauthor = A\n// a note\n\nauthor = B\ncity = \"X\nY\"\n:meta\n# T\n"
    let other := "\n<?\n £city= \"X\nY\"\n\t£author=A\nauthor  =   B\n?>\n# T\n"
    let entries : List Entry := [⟨"author", "A"⟩, ⟨"author", "B"⟩, ⟨"city", "X\nY"⟩]
    let others : List Entry := [⟨"city", "X\nY"⟩, ⟨"author", "A"⟩, ⟨"author", "B"⟩]
    Block entries source.toList "# T\n".toList ∧ Block others other.toList "# T\n".toList ∧
      SameByKey entries others ∧
      (render (fun text => .ok text) .metadata source "{{ £author }}, {{ £city }}").map
          Page.html =
        (render (fun text => .ok text) .metadata other "{{ £author }}, {{ £city }}").map
          Page.html := by
  intro source other entries others
  have hblock {text : String} {found : List Entry} (position : Position)
      (h : Metadata.block (Cursor.ofString text) =
        .ok (some found, ⟨"# T\n".toList, position⟩)) :
      Block found text.toList "# T\n".toList := (Metadata.block_eq_some h).2
  have hsource : Block entries source.toList "# T\n".toList :=
    hblock ⟨9, 58⟩ (by decide +kernel)
  have hother : Block others other.toList "# T\n".toList :=
    hblock ⟨8, 46⟩ (by decide +kernel)
  have horder : SameByKey entries others := by
    intro key
    by_cases hauthor : "author" = key
    · subst hauthor
      decide
    · have hne : ("author" == key) = false := by simpa using hauthor
      simp [entries, others, List.filter_cons, hne]
  obtain ⟨a, b, -, -, -, hpages⟩ | ⟨problem, p, q, herror, -⟩ :=
    render_rearranged (fun text => .ok text) .metadata "{{ £author }}, {{ £city }}" hsource hother
      horder
  · exact ⟨hsource, hother, horder, hpages⟩
  · have hread : parse source = .ok ⟨entries, some "T", "\n"⟩ := by decide +kernel
    cases hread.symm.trans herror

end Document

end StaticPages
