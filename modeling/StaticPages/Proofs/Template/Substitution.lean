import StaticPages.Proofs.Template.Location
import StaticPages.Template.Render

namespace StaticPages

namespace Text

/-- The text between two offsets. -/
def slice (start stop : Nat) (cs : List Char) : List Char :=
  takeUnits (stop - start) (dropUnits start cs)

/-- Replacing a stretch of a text leaves what stands before and after it. -/
theorem splice_append (xs ys zs : List Char) (value : String) :
    splice (String.ofList (xs ++ ys ++ zs)) (size xs) (size xs + size ys) value =
      String.ofList (xs ++ value.toList ++ zs) := by
  have hstart : (units (xs ++ ys ++ zs)).take (size xs) = units xs := by
    rw [List.append_assoc, units_append, ← length_units, List.take_left]
  have hstop : (units (xs ++ ys ++ zs)).drop (size xs + size ys) = units zs := by
    rw [← size_append, units_append, ← length_units, List.drop_left]
  simp only [splice, String.toList_ofList, hstart, hstop, ← units_append, ofUnits_units]

end Text

namespace Template

/-- The text from `offset` on with every placeholder, from left to right, replaced
    by its value. All offsets are those of the text as it is written. -/
def fill (text : List Char) (offset : Nat) : List (Placeholder × String) → List Char
  | [] => Text.dropUnits offset text
  | (p, value) :: rest =>
    Text.slice offset p.selection.start.offset text ++ value.toList ++
      fill text p.selection.stop.offset rest

/-- Whether a placeholder has a value, which is its variable's after its filters. -/
def HasValue (renderer : Renderer) (table : Variables) (p : Placeholder) (value : String) : Prop :=
  ∃ raw, table.get? p.name = some raw ∧ Filter.applyAll renderer p.filters raw = .ok value

/-- Whether a span lies in a text and divides no character. -/
def Within (text : List Char) (span : Span) : Prop :=
  ∃ before selected rest, text = before ++ selected ++ rest ∧
    span.start.offset = Text.size before ∧
    span.stop.offset = Text.size before + Text.size selected

variable {renderer : Renderer} {table : Variables}

theorem mapError_eq_ok_iff {α β γ : Type} {x : Except α γ} {f : α → β} {value : γ} :
    x.mapError f = .ok value ↔ x = .ok value := by
  cases x with
  | error e => exact ⟨nofun, nofun⟩
  | ok found => exact ⟨fun h => by cases h; rfl, fun h => by cases h; rfl⟩

theorem resolve_eq_ok_iff {p : Placeholder} {value : String} :
    resolve renderer table p = .ok value ↔ HasValue renderer table p value := by
  unfold resolve HasValue
  cases table.get? p.name with
  | none => simp
  | some raw => simp [mapError_eq_ok_iff]

theorem substitute_append (first last : List Placeholder) (text : String) :
    substitute renderer table (first ++ last) text =
      match substitute renderer table first text with
      | .ok changed => substitute renderer table last changed
      | .error fault => .error fault := by
  induction first generalizing text with
  | nil => simp [substitute]
  | cons p first ih =>
    simp only [List.cons_append, substitute]
    cases resolve renderer table p with
    | ok value => exact ih _
    | error fault => rfl

/-- The working copy after one more replacement: up to the next span it is still
    the text as written, and from there on it is filled in. -/
theorem splice_fill {text : List Char} {p : Placeholder} {offset : Nat} (value : String)
    (rest : List (Placeholder × String)) (hoffset : ∃ before after, text = before ++ after ∧
      offset = Text.size before)
    (hwithin : Within text p.selection) (hle : offset ≤ p.selection.start.offset) :
    Text.splice
        (String.ofList (Text.takeUnits p.selection.stop.offset text ++
          fill text p.selection.stop.offset rest))
        p.selection.start.offset p.selection.stop.offset value =
      String.ofList (Text.takeUnits offset text ++ fill text offset ((p, value) :: rest)) := by
  obtain ⟨before, selected, after, htext, hstart, hstop⟩ := hwithin
  obtain ⟨passed, later, hsplit, rfl⟩ := hoffset
  rw [hstart] at hle
  obtain ⟨between, rfl, hlater⟩ := Text.append_eq_of_size_le
    (hsplit.symm.trans (htext.trans (List.append_assoc _ _ _))) hle
  have htaken : Text.takeUnits p.selection.stop.offset text = passed ++ between ++ selected := by
    rw [hstop, htext, ← Text.size_append, Text.takeUnits_size]
  have hslice : Text.slice (Text.size passed) p.selection.start.offset text = between := by
    rw [Text.slice, hsplit, Text.dropUnits_size, hlater, hstart, Text.size_append,
      Nat.add_sub_cancel_left, Text.takeUnits_size]
  rw [htaken, fill, hslice]
  generalize fill text p.selection.stop.offset rest = tail
  rw [hstart, hstop, Text.splice_append, hsplit, Text.takeUnits_size]
  simp

/-- Replacing from the last placeholder to the first fills in all of them at once. -/
theorem substitute_reverse_iff {text : List Char} {html : String} (found : List Placeholder)
    {offset : Nat} (hoffset : ∃ before after, text = before ++ after ∧ offset = Text.size before)
    (hwithin : ∀ p ∈ found, Within text p.selection)
    (hafter : ∀ p ∈ found, offset ≤ p.selection.start.offset)
    (hordered : found.Pairwise fun p q => p.selection.stop.offset ≤ q.selection.start.offset) :
    substitute renderer table found.reverse (String.ofList text) = .ok html ↔
      ∃ parts : List (Placeholder × String), parts.map Prod.fst = found ∧
        (∀ part ∈ parts, HasValue renderer table part.1 part.2) ∧
        html = String.ofList (Text.takeUnits offset text ++ fill text offset parts) := by
  induction found generalizing offset html with
  | nil =>
    obtain ⟨before, after, rfl, rfl⟩ := hoffset
    have hwhole : Text.takeUnits (Text.size before) (before ++ after) ++
        fill (before ++ after) (Text.size before) [] = before ++ after := by
      rw [fill, Text.takeUnits_size, Text.dropUnits_size]
    simp only [List.reverse_nil, substitute, Except.ok.injEq]
    constructor
    · rintro rfl
      exact ⟨[], rfl, by simp, by rw [hwhole]⟩
    · rintro ⟨parts, hparts, -, rfl⟩
      rw [List.map_eq_nil_iff.mp hparts, hwhole]
  | cons p found ih =>
    obtain ⟨hhead, hlater⟩ := List.pairwise_cons.mp hordered
    have hp := hwithin p (by simp)
    have hstop : ∃ before after, text = before ++ after ∧
        p.selection.stop.offset = Text.size before := by
      obtain ⟨before, selected, after, htext, _, hstop⟩ := hp
      exact ⟨before ++ selected, after, htext, by rw [hstop, Text.size_append]⟩
    have hfound : ∀ q ∈ found, Within text q.selection := fun q hq => hwithin q (by simp [hq])
    have hsplice (value : String) (rest : List (Placeholder × String)) :=
      splice_fill value rest hoffset hp (hafter p (by simp))
    rw [List.reverse_cons, substitute_append]
    constructor
    · intro h
      split at h
      · next changed hchanged =>
        obtain ⟨parts, hparts, hvalues, rfl⟩ := (ih hstop hfound hhead hlater).mp hchanged
        simp only [substitute] at h
        split at h
        · next value hvalue =>
          have hhtml := (Except.ok.inj h).symm.trans (hsplice value parts)
          refine ⟨(p, value) :: parts, by simp [hparts], ?_, hhtml⟩
          intro part hpart
          rcases List.mem_cons.mp hpart with rfl | hpart
          · exact resolve_eq_ok_iff.mp hvalue
          · exact hvalues part hpart
        · cases h
      · cases h
    · rintro ⟨parts, hparts, hvalues, rfl⟩
      obtain ⟨⟨q, value⟩, rest, rfl, rfl, rfl⟩ := List.map_eq_cons_iff.mp hparts
      have hrest : ∀ part ∈ rest, HasValue renderer table part.1 part.2 :=
        fun part hpart => hvalues part (by simp [hpart])
      rw [(ih hstop hfound hhead hlater).mpr ⟨rest, rfl, hrest, rfl⟩]
      simp only [substitute, resolve_eq_ok_iff.mpr (hvalues (q, value) (by simp))]
      rw [hsplice value rest]

theorem located_of_locate {template : String} {found : List Placeholder}
    (h : locate template = .ok found) :
    Placeholder.Located (Cursor.ofString template) (Cursor.ofString template).endOffset
      found.reverse := by
  rw [locate, mapError_eq_ok_iff, Placeholder.locate] at h
  cases hscan : Placeholder.scan (Cursor.ofString template) with
  | error f => simp [hscan] at h
  | ok listed =>
    simp only [hscan, Except.ok.injEq] at h
    rw [← h, List.reverse_reverse]
    exact Placeholder.scan_eq_ok_iff.mp hscan

/-- A located placeholder was read in the text, so its span lies there. -/
theorem within_of_located {text : String} {stop : Nat} {found : List Placeholder}
    (h : Placeholder.Located (Cursor.ofString text) stop found) :
    ∀ p ∈ found, Within text.toList p.selection := by
  intro p hp
  obtain ⟨rest, hparse⟩ := h.parsed p hp
  obtain ⟨before, hahead, hposition⟩ := (Placeholder.opensAt_of_parse hparse).reaches
  obtain ⟨selected, hselected, hrest⟩ := Placeholder.parse_reaches hparse
  have hselection := Placeholder.selection_of_parse hparse
  have hbefore : p.selection.start.offset = Text.size before := by
    conv => lhs; rw [hselection]
    simp only [Cursor.spanTo, hposition, Position.after_offset]
    simp [Cursor.ofString, Position.start]
  refine ⟨before, selected, rest.ahead, ?_, hbefore, ?_⟩
  · rw [List.append_assoc, ← hselected, ← hahead]
    rfl
  · conv => lhs; rw [hselection]
    simp only [Cursor.spanTo, hrest, hposition, Position.after_offset]
    simp [Cursor.ofString, Position.start]

theorem substitute_located_iff {template html : String} {found : List Placeholder}
    (h : Placeholder.Located (Cursor.ofString template) (Cursor.ofString template).endOffset
      found.reverse) :
    substitute renderer table found template = .ok html ↔
      ∃ parts : List (Placeholder × String), parts.map Prod.fst = found.reverse ∧
        (∀ part ∈ parts, HasValue renderer table part.1 part.2) ∧
        html = String.ofList (fill template.toList 0 parts) := by
  have hstart : ∃ before after, template.toList = before ++ after ∧ 0 = Text.size before :=
    ⟨[], template.toList, rfl, rfl⟩
  have hiff := @substitute_reverse_iff renderer table _ html found.reverse _ hstart
    (within_of_located h) (fun _ _ => Nat.zero_le _) h.ordered
  simpa using hiff

/-- A rendered template is its text with all placeholders replaced at once. Their
    spans are disjoint and in order, what stands between them is as it is written,
    whatever lengths the values have, and no value is searched for placeholders. -/
theorem render_eq_ok_iff (renderer : Renderer) (table : Variables) (template html : String) :
    render renderer table template = .ok html ↔
      ∃ parts : List (Placeholder × String),
        locate template = .ok (parts.map Prod.fst).reverse ∧
        (∀ part ∈ parts, Within template.toList part.1.selection) ∧
        parts.Pairwise (fun a b => a.1.selection.stop.offset ≤ b.1.selection.start.offset) ∧
        (∀ part ∈ parts, HasValue renderer table part.1 part.2) ∧
        html = String.ofList (fill template.toList 0 parts) := by
  unfold render
  constructor
  · intro h
    split at h
    · next found hlocate =>
      have hlocated := located_of_locate hlocate
      obtain ⟨parts, hparts, hvalues, hhtml⟩ := (substitute_located_iff hlocated).mp h
      have hordered := hlocated.ordered
      have hwithin := within_of_located hlocated
      rw [← hparts, List.pairwise_map] at hordered
      rw [← hparts, List.forall_mem_map] at hwithin
      exact ⟨parts, by rw [hparts, List.reverse_reverse, hlocate], hwithin, hordered, hvalues,
        hhtml⟩
    · cases h
  · rintro ⟨parts, hlocate, -, -, hvalues, hhtml⟩
    rw [hlocate]
    exact (substitute_located_iff (located_of_locate hlocate)).mpr
      ⟨parts, by simp, hvalues, hhtml⟩

end Template

end StaticPages
