import StaticPages.Proofs.Template.Extension
import StaticPages.Proofs.Template.Substitution

namespace StaticPages

/-- Where a position of a text is when another text stands before it. -/
def Position.shift (before : List Char) (p : Position) : Position :=
  ⟨p.line + before.count '\n', p.offset + Text.size before⟩

def Span.shift (before : List Char) (s : Span) : Span :=
  ⟨s.start.shift before, s.stop.shift before⟩

def Placeholder.shift (before : List Char) (p : Placeholder) : Placeholder :=
  { p with selection := p.selection.shift before }

/-- The same error for a text with another text before it. -/
def RenderError.shift (before : List Char) (e : RenderError) : RenderError :=
  { e with position := e.position.map fun p => p.shift before }

variable {before : List Char}

namespace Position

theorem after_start (cs : List Char) : start.after cs = start.shift cs := by
  have hline := after_line start cs
  have hoffset := after_offset start cs
  cases h : start.after cs
  rw [h] at hline hoffset
  rw [shift, ← hline, ← hoffset]

theorem shift_after (p : Position) (cs : List Char) :
    (p.shift before).after cs = (p.after cs).shift before := by
  have hline := after_line (p.shift before) cs
  have hoffset := after_offset (p.shift before) cs
  cases h : (p.shift before).after cs
  rw [h] at hline hoffset
  simp only [shift] at hline hoffset ⊢
  rw [after_line, after_offset, hline, hoffset, Nat.add_right_comm p.line,
    Nat.add_right_comm p.offset]

/-- Places abreast in a text and in the same text with another one before it. -/
theorem Abreast.eq_shift {c d : Cursor} {p q : Position} (hahead : c.ahead = d.ahead)
    (hposition : d.position = c.position.shift before) (h : Position.Abreast Eq c d p q) :
    q = p.shift before := by
  obtain ⟨e, f, ⟨⟨xs, hxs, he⟩, ⟨ys, hys, hf⟩, hrest⟩, rfl, rfl⟩ := h
  have htaken : xs = ys := by
    rw [← hahead, hxs, hrest] at hys
    exact List.append_cancel_right hys
  rw [he, hf, hposition, shift_after, htaken]

end Position

namespace Placeholder

@[simp] theorem shift_start_offset (p : Placeholder) (before : List Char) :
    (p.shift before).selection.start.offset = p.selection.start.offset + Text.size before := rfl

@[simp] theorem shift_stop_offset (p : Placeholder) (before : List Char) :
    (p.shift before).selection.stop.offset = p.selection.stop.offset + Text.size before := rfl

variable {c d : Cursor}

theorem Alike.eq_shift {p q : Placeholder} (hahead : c.ahead = d.ahead)
    (hposition : d.position = c.position.shift before) (h : Alike c d p q) :
    q = p.shift before := by
  have hstart := h.start.eq_shift hahead hposition
  have hstop := h.stop.eq_shift hahead hposition
  obtain ⟨name, filters, start, stop⟩ := p
  obtain ⟨name', filters', start', stop'⟩ := q
  obtain ⟨rfl, rfl, -, -⟩ := h
  simp only at hstart hstop
  rw [hstart, hstop]
  rfl

theorem eq_map_shift {found others : List Placeholder} (hahead : c.ahead = d.ahead)
    (hposition : d.position = c.position.shift before)
    (h : List.Forall₂ (Alike c d) found others) :
    others = found.map fun p => p.shift before := by
  induction h with
  | nil => rfl
  | cons halike _ ih => rw [List.map_cons, halike.eq_shift hahead hposition, ih]

/-- A text is scanned behind another one as on its own. -/
theorem scan_shift (first second : List Char) :
    (∃ found, scan ⟨second, Position.start⟩ = .ok found ∧
        scan ⟨second, Position.start.after first⟩ = .ok (found.map fun p => p.shift first)) ∨
      ∃ f, scan ⟨second, Position.start⟩ = .error f ∧
        scan ⟨second, Position.start.after first⟩ =
          .error { f with position := f.position.shift first } := by
  have hposition := Position.after_start first
  obtain ⟨found, others, hc, hd, halike⟩ | ⟨f, g, hc, hd, hproblem, hkind, hplaces⟩ :=
    scan_cases (c := ⟨second, Position.start⟩) (d := ⟨second, Position.start.after first⟩) rfl
  · exact .inl ⟨found, hc, by rw [hd, eq_map_shift (by rfl) hposition halike]⟩
  · have hshift : g = { f with position := f.position.shift first } := by
      rw [← hplaces.eq_shift (by rfl) hposition, hproblem, hkind]
    exact .inr ⟨f, hc, by rw [hd, hshift]⟩

/-- The placeholders of two texts after each other, if the first text does not end in
    the beginning of a placeholder: those of each, or the error of the second. -/
theorem locate_append {first : String} {found : List Placeholder}
    (hfound : locate (Cursor.ofString first) = .ok found) (hend : ¬ EndsOpen first.toList)
    (second : String) :
    (∃ later, locate (Cursor.ofString second) = .ok later ∧
        locate (Cursor.ofString (first ++ second)) =
          .ok (later.map (fun p => p.shift first.toList) ++ found)) ∨
      ∃ e, locate (Cursor.ofString second) = .error e ∧
        locate (Cursor.ofString (first ++ second)) = .error (e.shift first.toList) := by
  have happend : Cursor.ofString (first ++ second) =
      (Cursor.ofString first).append second.toList := by
    simp only [Cursor.ofString, Cursor.append, String.toList_append]
  unfold locate at hfound ⊢
  split at hfound
  · next listed hlisted =>
    cases hfound
    have hscan := scan_append hlisted hend second.toList
    rw [← happend] at hscan
    obtain ⟨later, hc, hd⟩ | ⟨f, hc, hd⟩ := scan_shift first.toList second.toList
    · refine .inl ⟨later.reverse, by rw [Cursor.ofString, hc], ?_⟩
      rw [hscan, Cursor.ofString, hd, List.map_reverse, ← List.reverse_append]
      rfl
    · refine .inr ⟨.ofFailure f .malformedPlaceholder, by rw [Cursor.ofString, hc], ?_⟩
      rw [hscan, Cursor.ofString, hd]
      rfl
  · cases hfound

end Placeholder

namespace Template

/-- A value goes with its placeholder. -/
def shiftPart (before : List Char) (part : Placeholder × String) : Placeholder × String :=
  (part.1.shift before, part.2)

/-- Offsets behind a text divide what follows it as they do on their own. -/
theorem slice_shift (before text : List Char) (start stop : Nat) :
    Text.slice (start + Text.size before) (stop + Text.size before) (before ++ text) =
      Text.slice start stop text := by
  rw [Text.slice, Nat.add_comm start, Text.dropUnits_size_add, Nat.add_comm (Text.size before),
    Nat.add_sub_add_right, Text.slice]

theorem fill_shift (before text : List Char) (offset : Nat) (parts : List (Placeholder × String)) :
    fill (before ++ text) (offset + Text.size before) (parts.map (shiftPart before)) =
      fill text offset parts := by
  induction parts generalizing offset with
  | nil => rw [List.map_nil, fill, fill, Nat.add_comm, Text.dropUnits_size_add]
  | cons part parts ih =>
    obtain ⟨p, value⟩ := part
    simp only [List.map_cons, shiftPart, fill, Placeholder.shift_start_offset,
      Placeholder.shift_stop_offset, slice_shift, ih]

/-- Between the last part of a text and the first one behind it stands what is left of
    the text and what comes first behind. -/
theorem fill_last (passed rest text : List Char) (parts : List (Placeholder × String)) :
    fill (passed ++ rest ++ text) (Text.size passed)
        (parts.map (shiftPart (passed ++ rest))) =
      rest ++ fill text 0 parts := by
  cases parts with
  | nil => simp [fill, List.append_assoc]
  | cons part parts =>
    obtain ⟨p, value⟩ := part
    have hcount : p.selection.start.offset + Text.size (passed ++ rest) - Text.size passed =
        Text.size rest + p.selection.start.offset := by
      rw [Text.size_append]
      omega
    have hslice : Text.slice (Text.size passed)
        (p.selection.start.offset + Text.size (passed ++ rest)) (passed ++ rest ++ text) =
        rest ++ Text.slice 0 p.selection.start.offset text := by
      rw [Text.slice, hcount, List.append_assoc, Text.dropUnits_size, Text.takeUnits_size_add,
        Text.slice, Text.dropUnits_zero, Nat.sub_zero]
    simp only [List.map_cons, shiftPart, fill, Placeholder.shift_start_offset,
      Placeholder.shift_stop_offset, fill_shift, hslice]
    simp only [List.append_assoc]

/-- Filling in the placeholders of two texts after each other fills in each text. -/
theorem fill_append {first second : List Char} {offset : Nat}
    {parts others : List (Placeholder × String)}
    (hoffset : ∃ passed rest, first = passed ++ rest ∧ offset = Text.size passed)
    (hwithin : ∀ part ∈ parts, Within first part.1.selection)
    (hafter : ∀ part ∈ parts, offset ≤ part.1.selection.start.offset)
    (hordered : parts.Pairwise fun a b =>
      a.1.selection.stop.offset ≤ b.1.selection.start.offset) :
    fill (first ++ second) offset (parts ++ others.map (shiftPart first)) =
      fill first offset parts ++ fill second 0 others := by
  induction parts generalizing offset with
  | nil =>
    obtain ⟨passed, rest, rfl, rfl⟩ := hoffset
    rw [List.nil_append, fill_last, fill, Text.dropUnits_size]
  | cons part parts ih =>
    obtain ⟨p, value⟩ := part
    obtain ⟨hhead, hlater⟩ := List.pairwise_cons.mp hordered
    obtain ⟨before, selected, after, hfirst, hstart, hstop⟩ := hwithin (p, value) (by simp)
    obtain ⟨passed, rest, hsplit, rfl⟩ := hoffset
    have hle := hafter (p, value) (by simp)
    simp only at hstart hstop hle
    rw [hstart] at hle
    obtain ⟨between, rfl, hrest⟩ := Text.append_eq_of_size_le
      (hsplit.symm.trans (hfirst.trans (List.append_assoc _ _ _))) hle
    have hslice (tail : List Char) :
        Text.slice (Text.size passed) p.selection.start.offset (first ++ tail) = between := by
      rw [Text.slice, hsplit, List.append_assoc, Text.dropUnits_size, hrest, hstart,
        Text.size_append, Nat.add_sub_cancel_left, List.append_assoc, Text.takeUnits_size]
    have hfront := hslice []
    rw [List.append_nil] at hfront
    have hrestOffset : ∃ passed rest, first = passed ++ rest ∧
        p.selection.stop.offset = Text.size passed :=
      ⟨passed ++ between ++ selected, after, hfirst, by simp only [hstop, Text.size_append]⟩
    have hrestParts := ih hrestOffset (fun part hpart => hwithin part (by simp [hpart])) hhead hlater
    simp only [List.cons_append, fill, hslice second, hfront, hrestParts, List.append_assoc]

theorem exists_parts_of_render {renderer : Renderer} {table : Variables} {template html : String}
    (h : render renderer table template = .ok html) :
    ∃ found parts, locate template = .ok found ∧ parts.map Prod.fst = found.reverse ∧
      (∀ part ∈ parts, HasValue renderer table part.1 part.2) ∧
      html = String.ofList (fill template.toList 0 parts) := by
  unfold render at h
  split at h
  · next found hlocate =>
    obtain ⟨parts, hparts⟩ := (substitute_located_iff (located_of_locate hlocate)).mp h
    exact ⟨found, parts, hlocate, hparts⟩
  · cases h

theorem fill_append_of_located {first : String} {second : List Char} {stop : Nat}
    {parts others : List (Placeholder × String)}
    (h : Placeholder.Located (Cursor.ofString first) stop (parts.map Prod.fst)) :
    fill (first.toList ++ second) 0 (parts ++ others.map (shiftPart first.toList)) =
      fill first.toList 0 parts ++ fill second 0 others := by
  have hwithin := within_of_located h
  have hordered := h.ordered
  rw [List.forall_mem_map] at hwithin
  rw [List.pairwise_map] at hordered
  exact fill_append ⟨[], first.toList, rfl, rfl⟩ hwithin (fun _ _ => Nat.zero_le _) hordered

theorem locate_append_of_ok {first second : String} {found later : List Placeholder}
    (hfound : Placeholder.locate (Cursor.ofString first) = .ok found)
    (hend : ¬ Placeholder.EndsOpen first.toList)
    (hlater : Placeholder.locate (Cursor.ofString second) = .ok later) :
    Placeholder.locate (Cursor.ofString (first ++ second)) =
      .ok (later.map (fun p => p.shift first.toList) ++ found) := by
  obtain ⟨_, hsecond, hwhole⟩ | ⟨e, hsecond, -⟩ := Placeholder.locate_append hfound hend second
  · cases hlater.symm.trans hsecond
    exact hwhole
  · cases hlater.symm.trans hsecond

/-- Templates compose. If the placeholders of `first` are read and it does not end in the
    beginning of one, those of `first ++ second` are the placeholders of both, with the
    positions of the second text's moved behind the first, or the second text's error,
    moved as well; and where both are rendered, so is the whole, as both results after
    each other. -/
theorem append_spec {first : String} {found : List Placeholder}
    (hfound : Placeholder.locate (Cursor.ofString first) = .ok found)
    (hend : ¬ Placeholder.EndsOpen first.toList) (second : String) :
    (∀ later, Placeholder.locate (Cursor.ofString second) = .ok later →
        Placeholder.locate (Cursor.ofString (first ++ second)) =
          .ok (later.map (fun p => p.shift first.toList) ++ found)) ∧
      (∀ e, Placeholder.locate (Cursor.ofString second) = .error e →
        Placeholder.locate (Cursor.ofString (first ++ second)) =
          .error (e.shift first.toList)) ∧
      ∀ (renderer : Renderer) (table : Variables) (a b : String),
        render renderer table first = .ok a → render renderer table second = .ok b →
          render renderer table (first ++ second) = .ok (a ++ b) := by
  refine ⟨fun later hlater => ?_, fun e he => ?_, fun renderer table a b ha hb => ?_⟩
  · exact locate_append_of_ok hfound hend hlater
  · obtain ⟨later, hsecond, -⟩ | ⟨_, hsecond, hwhole⟩ :=
      Placeholder.locate_append hfound hend second
    · cases he.symm.trans hsecond
    · cases he.symm.trans hsecond
      exact hwhole
  · obtain ⟨found', parts, hfirst, hparts, hvalues, rfl⟩ := exists_parts_of_render ha
    obtain ⟨later, others, hsecond, hothers, hmore, rfl⟩ := exists_parts_of_render hb
    have hlater : Placeholder.locate (Cursor.ofString second) = .ok later :=
      mapError_eq_ok_iff.mp hsecond
    have hwhole : locate (first ++ second) =
        .ok (later.map (fun p => p.shift first.toList) ++ found) :=
      mapError_eq_ok_iff.mpr (locate_append_of_ok hfound hend hlater)
    cases hfound.symm.trans (mapError_eq_ok_iff.mp hfirst)
    have hlocated := located_of_locate hfirst
    rw [← hparts] at hlocated
    unfold render
    rw [hwhole]
    refine (substitute_located_iff (located_of_locate hwhole)).mpr
      ⟨parts ++ others.map (shiftPart first.toList), ?_, ?_, ?_⟩
    · rw [List.map_append, hparts, List.reverse_append, ← List.map_reverse, ← hothers,
        List.map_map, List.map_map]
      rfl
    · intro part hpart
      rcases List.mem_append.mp hpart with hpart | hpart
      · exact hvalues part hpart
      · obtain ⟨other, hother, rfl⟩ := List.mem_map.mp hpart
        exact hmore other hother
    · rw [String.toList_append, ← String.ofList_append]
      exact congrArg String.ofList (fill_append_of_located hlocated).symm

/-- A first text over two lines moves the placeholder behind it to the second line. -/
theorem append_spec_two_lines :
    Placeholder.locate (Cursor.ofString "Dear \x7b\x7b £name \x7d\x7d,\nwe") =
        .ok [⟨"name", [], ⟨⟨1, 5⟩, ⟨1, 16⟩⟩⟩] ∧
      ¬ Placeholder.EndsOpen "Dear \x7b\x7b £name \x7d\x7d,\nwe".toList ∧
      Placeholder.locate (Cursor.ofString
          ("Dear \x7b\x7b £name \x7d\x7d,\nwe" ++ " saw \x7b\x7b £it | reverse \x7d\x7d")) =
        .ok [⟨"it", [.reverse], ⟨⟨2, 25⟩, ⟨2, 44⟩⟩⟩, ⟨"name", [], ⟨⟨1, 5⟩, ⟨1, 16⟩⟩⟩] ∧
      render .ok [("name", "Ann"), ("it", "won")]
          ("Dear \x7b\x7b £name \x7d\x7d,\nwe" ++ " saw \x7b\x7b £it | reverse \x7d\x7d") =
        .ok ("Dear Ann,\nwe" ++ " saw now") := by
  have hfound : Placeholder.locate (Cursor.ofString "Dear \x7b\x7b £name \x7d\x7d,\nwe") =
      .ok [⟨"name", [], ⟨⟨1, 5⟩, ⟨1, 16⟩⟩⟩] := by decide +kernel
  have hend : ¬ Placeholder.EndsOpen "Dear \x7b\x7b £name \x7d\x7d,\nwe".toList :=
    Placeholder.not_endsOpen_of_getLast? (x := 'e') (by decide +kernel) (by decide) rfl
  have hlater : Placeholder.locate (Cursor.ofString " saw \x7b\x7b £it | reverse \x7d\x7d") =
      .ok [⟨"it", [.reverse], ⟨⟨1, 5⟩, ⟨1, 24⟩⟩⟩] := by decide +kernel
  obtain ⟨hlocate, -, hrender⟩ :=
    append_spec hfound hend " saw \x7b\x7b £it | reverse \x7d\x7d"
  refine ⟨hfound, hend, (hlocate _ hlater).trans (by decide +kernel), ?_⟩
  exact hrender _ _ _ _ (by decide +kernel) (by decide +kernel)

end Template

end StaticPages
