import StaticPages.Proofs.Document.Variables
import StaticPages.Proofs.Template.Agreement
import StaticPages.Proofs.Template.Outcome
import StaticPages.Proofs.Template.Printer

namespace StaticPages

namespace Placeholder

open Token

/-- A placeholder without filters. -/
def reference (name : String) : String :=
  "\x7b\x7b £" ++ name ++ " \x7d\x7d"

theorem written_nil (name : String) : written name [] = reference name := by
  rw [← String.toList_inj]
  simp [written, shown, reference, opening, closing, sigil]

/-- A reference is read to its end, whatever follows. -/
theorem parse_reads_reference {name : String} (hname : IsName name.toList) {rest : List Char}
    {c : Cursor} (hahead : c.ahead = (reference name).toList ++ rest) :
    parse c =
      .ok (⟨name, [], ⟨c.position, c.position.after (reference name).toList⟩⟩,
        ⟨rest, c.position.after (reference name).toList⟩) := by
  rw [← written_nil] at hahead ⊢
  exact parse_reads_written hname (by simp) hahead

theorem opens_reference {name : String} {rest : List Char} {c : Cursor}
    (hahead : c.ahead = (reference name).toList ++ rest) : opens c = true := by
  refine (opens_iff_opening c).mpr ⟨[' '], name.toList ++ [' ', '\x7d', '\x7d'] ++ rest, ?_, ?_⟩
  · simp [hahead, reference]
  · simp [Text.isSpace]

theorem not_opens_of_ne {x : Char} {rest : List Char} {c : Cursor} (hahead : c.ahead = x :: rest)
    (hx : x ≠ '\x7b') : ¬ opens c = true := by
  rw [opens_iff_opening]
  rintro ⟨space, more, htext, -⟩
  rw [hahead] at htext
  exact hx (List.cons.inj htext).1

/-- Text without an opening brace is passed over. -/
theorem scan_of_not_mem {before rest : List Char} (h : '\x7b' ∉ before) (position : Position) :
    scan ⟨before ++ rest, position⟩ = scan ⟨rest, position.after before⟩ := by
  induction before generalizing position with
  | nil => rfl
  | cons x before ih =>
    obtain ⟨hx, hbefore⟩ : '\x7b' ≠ x ∧ '\x7b' ∉ before := by
      simpa only [List.mem_cons, not_or] using h
    have hopens : ¬ opens ⟨x :: before ++ rest, position⟩ = true :=
      not_opens_of_ne rfl (Ne.symm hx)
    have hne : Cursor.ahead ⟨x :: before ++ rest, position⟩ ≠ [] := by simp
    rw [scan_eq, if_neg hne, if_neg hopens]
    exact ih hbefore (position.step x)

/-- A reference with nothing around it that could open a placeholder is the only one. -/
theorem scan_reference {before after : List Char} (hbefore : '\x7b' ∉ before)
    (hafter : '\x7b' ∉ after) {name : String} (hname : IsName name.toList)
    (position : Position) :
    scan ⟨before ++ ((reference name).toList ++ after), position⟩ =
      .ok [⟨name, [], ⟨position.after before,
        (position.after before).after (reference name).toList⟩⟩] := by
  have hend (place : Position) : scan ⟨after, place⟩ = .ok [] := by
    have hrest : scan ⟨after ++ [], place⟩ = scan ⟨[], place.after after⟩ :=
      scan_of_not_mem hafter place
    rw [List.append_nil] at hrest
    rw [hrest, scan_eq, if_pos rfl]
  have hne (place : Position) : Cursor.ahead ⟨(reference name).toList ++ after, place⟩ ≠ [] := by
    simp [reference]
  rw [scan_of_not_mem hbefore, scan_eq, if_neg (hne _), if_pos (opens_reference rfl),
    parse_reads_reference hname rfl]
  simp only [hend]

end Placeholder

namespace Template

open Placeholder Token

variable {renderer : Renderer} {table : Variables}

theorem locate_reference {before after name : String} (hbefore : '\x7b' ∉ before.toList)
    (hafter : '\x7b' ∉ after.toList) (hname : IsName name.toList) :
    locate (before ++ reference name ++ after) =
      .ok [⟨name, [], ⟨Position.start.after before.toList,
        (Position.start.after before.toList).after (reference name).toList⟩⟩] := by
  have hscan := scan_reference hbefore hafter hname Position.start
  rw [← List.append_assoc, ← String.toList_append, ← String.toList_append] at hscan
  refine mapError_eq_ok_iff.mpr ?_
  simp only [Placeholder.locate, Cursor.ofString, hscan]
  rfl

/-- The value stands in the page as it is, between what stood around its reference. -/
theorem render_reference {before after name value : String} (hbefore : '\x7b' ∉ before.toList)
    (hafter : '\x7b' ∉ after.toList) (hname : IsName name.toList)
    (hvalue : table.get? name = some value) :
    render renderer table (before ++ reference name ++ after) =
      .ok (before ++ value ++ after) := by
  have hresolve (selection : Span) :
      resolve renderer table ⟨name, [], selection⟩ = .ok value :=
    resolve_eq_ok_iff.mpr ⟨value, hvalue, rfl⟩
  have htext : before ++ reference name ++ after =
      String.ofList (before.toList ++ (reference name).toList ++ after.toList) := by
    simp [← String.toList_inj]
  have hpage : before ++ value ++ after =
      String.ofList (before.toList ++ value.toList ++ after.toList) := by
    simp [← String.toList_inj]
  have hstart : (Position.start.after before.toList).offset = Text.size before.toList := by
    rw [Position.after_offset]
    exact Nat.zero_add _
  have hstop : ((Position.start.after before.toList).after (reference name).toList).offset =
      Text.size before.toList + Text.size (reference name).toList := by
    rw [Position.after_offset, hstart]
  rw [render, locate_reference hbefore hafter hname]
  simp only [substitute, hresolve, hstart, hstop]
  rw [htext, hpage, Text.splice_append]

end Template

namespace Document

open Placeholder Token

/-- A variable comes through as it is, whatever its value contains: a template that refers
    to it once, and opens nothing else, is rendered with the value in the reference's place.
    Every key of the metadata is such a variable, and whatever is read as a key can be
    referred to. -/
theorem render_verbatim (renderer : Renderer) (precedence : Precedence) {source : String}
    {document : Document} (h : parse source = .ok document) :
    (∀ name value before after,
        (document.table precedence).get? name = some value →
        '\x7b' ∉ before.toList → '\x7b' ∉ after.toList →
        ∃ page, render renderer precedence source (before ++ reference name ++ after) = .ok page ∧
          page.html = before ++ value ++ after) ∧
      (∀ e ∈ document.metadata, ∃ value, (document.table precedence).get? e.key = some value) ∧
      ∀ c d e, Metadata.entry c = .ok (e, d) →
        ∃ selection,
          Placeholder.parse (Cursor.ofString (reference e.key)) =
            .ok (⟨e.key, [], selection⟩, ⟨[], selection.stop⟩) := by
  refine ⟨fun name value before after hvalue hbefore hafter => ?_,
    fun e he => exists_get?_of_mem_metadata he precedence, fun c d e hentry => ?_⟩
  · have hname := isName_of_get? h hvalue
    have hhtml : (render renderer precedence source (before ++ reference name ++ after)).map
        Page.html = .ok (before ++ value ++ after) := by
      rw [Template.map_html_render, h]
      exact Template.render_reference hbefore hafter hname hvalue
    cases hpage : render renderer precedence source (before ++ reference name ++ after) with
    | error fault =>
      rw [hpage] at hhtml
      cases hhtml
    | ok page =>
      rw [hpage] at hhtml
      exact ⟨page, rfl, Except.ok.inj hhtml⟩
  · have hname : IsName e.key.toList := by
      cases Metadata.spells_of_entry hentry with
      | entry _ _ hkey => exact hkey
    have hahead : (Cursor.ofString (reference e.key)).ahead = (reference e.key).toList ++ [] := by
      simp [Cursor.ofString]
    exact ⟨_, parse_reads_reference hname hahead⟩

/-- A value that looks like a reference itself is not read again. -/
theorem render_verbatim_reference :
    let source := ":meta\nnote = \x7b\x7b £title \x7d\x7d\n:meta\n# Home\n"
    let document : Document := ⟨[⟨"note", "\x7b\x7b £title \x7d\x7d"⟩], some "Home", "\n"⟩
    parse source = .ok document ∧
      (document.table .derived).get? "note" = some "\x7b\x7b £title \x7d\x7d" ∧
      ∃ page, render (fun text => .ok text) .derived source
          ("<p>" ++ reference "note" ++ "</p>") = .ok page ∧
        page.html = "<p>\x7b\x7b £title \x7d\x7d</p>" := by
  intro source document
  have hsource : parse source = .ok document := by decide +kernel
  have hnote : (document.table .derived).get? "note" = some "\x7b\x7b £title \x7d\x7d" := by
    decide +kernel
  obtain ⟨hverbatim, -⟩ := render_verbatim (fun text => .ok text) .derived hsource
  exact ⟨hsource, hnote, hverbatim "note" _ "<p>" "</p>" hnote (by simp) (by simp)⟩

end Document

end StaticPages
