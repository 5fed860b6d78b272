import StaticPages.Proofs.Source.Cursor
import StaticPages.Proofs.Template.Refusal

namespace StaticPages

namespace Placeholder

/-- Whether a text goes on with two braces, any white space and the sigil. -/
def Opening (text : List Char) : Prop :=
  ∃ space rest, text = '\x7b' :: '\x7b' :: (space ++ '£' :: rest) ∧
    ∀ x ∈ space, Text.isSpace x = true

/-- Whether such an opening stands at an offset of the text ahead of a cursor. -/
def OpensAt (c : Cursor) (offset : Nat) : Prop :=
  (c.seek offset).position.offset = offset ∧ Opening (c.seek offset).ahead

/-- `found` are the placeholders between a cursor and the offset `stop`: their
    spans are disjoint and in the order of the text, each is what the parser gives
    at its start, and no opening before `stop` lies outside of all of them. -/
structure Located (c : Cursor) (stop : Nat) (found : List Placeholder) : Prop where
  inside : ∀ p ∈ found, c.position.offset ≤ p.selection.start.offset ∧
    p.selection.start.offset < p.selection.stop.offset ∧ p.selection.stop.offset ≤ stop
  ordered : found.Pairwise fun p q => p.selection.stop.offset ≤ q.selection.start.offset
  parsed : ∀ p ∈ found, ∃ rest, parse (c.seek p.selection.start.offset) = .ok (p, rest)
  covered : ∀ offset < stop, OpensAt c offset → ∃ p ∈ found,
    p.selection.start.offset ≤ offset ∧ offset < p.selection.stop.offset

theorem opens_iff_opening (c : Cursor) : opens c = true ↔ Opening c.ahead := by
  unfold opens
  constructor
  · intro h
    split at h
    · cases h
    · next opened hopened =>
      obtain ⟨space, hspace, hall⟩ := Cursor.exists_skipWhile Text.isSpace opened
      obtain ⟨rest, hrest⟩ := Cursor.startsWith_iff.mp h
      refine ⟨space, rest, ?_, hall⟩
      rw [Cursor.ahead_of_after? hopened, hspace]
      exact congrArg (fun cs => opening.toList ++ (space ++ cs)) hrest
  · rintro ⟨space, rest, hahead, hall⟩
    obtain ⟨opened, hopened, hafter⟩ : ∃ d, c.after? opening = some d ∧
        d.ahead = space ++ '£' :: rest := Cursor.exists_after? hahead
    rw [hopened]
    have hstops : Text.Stops Text.isSpace ('£' :: rest) := Text.stops_cons.mpr rfl
    exact Cursor.startsWith_iff.mpr ⟨rest, Cursor.ahead_skipWhile hafter hall hstops⟩

theorem opensAt_self {c : Cursor} : OpensAt c c.position.offset ↔ opens c = true := by
  simp [OpensAt, opens_iff_opening]

/-- An opening begins with a brace, so it stands between two characters of the text. -/
theorem OpensAt.reaches {c : Cursor} {offset : Nat} (h : OpensAt c offset) :
    c.Reaches (c.seek offset) := by
  obtain ⟨-, space, rest, hopening, -⟩ := h
  refine Cursor.reaches_advance fun hhalf => ?_
  change (c.seek offset).ahead.head? = _ at hhalf
  rw [hopening] at hhalf
  cases hhalf

theorem OpensAt.offset_le {c : Cursor} {offset : Nat} (h : OpensAt c offset) :
    c.position.offset ≤ offset := by
  have hreach := h.reaches.offset_le
  rwa [h.1] at hreach

/-- Openings do not depend on where the text before them is left. -/
theorem opensAt_iff_of_reaches {c d : Cursor} (hreach : c.Reaches d) {offset : Nat}
    (hoffset : d.position.offset ≤ offset) : OpensAt c offset ↔ OpensAt d offset := by
  simp only [OpensAt, hreach.seek_eq hoffset]

theorem opens_of_parse {c rest : Cursor} {p : Placeholder} (h : parse c = .ok (p, rest)) :
    opens c = true := by
  unfold parse at h
  unfold opens
  split at h
  · cases h
  · next opened hopened =>
    unfold Token.variableName at h
    split at h
    · cases h
    · next hname =>
      split at hname
      · cases hname
      · next named hnamed =>
        exact Cursor.startsWith_iff.mpr ⟨named.ahead, Cursor.ahead_of_after? hnamed⟩

theorem selection_of_parse {c rest : Cursor} {p : Placeholder} (h : parse c = .ok (p, rest)) :
    p.selection = c.spanTo rest := by
  unfold parse at h
  split at h
  · cases h
  · split at h
    · cases h
    · split at h
      · cases h
      · split at h
        · cases h
        · cases h
          rfl

theorem offset_lt_of_parse {c rest : Cursor} {p : Placeholder} (h : parse c = .ok (p, rest)) :
    c.position.offset < rest.position.offset :=
  Cursor.Reaches.offset_lt (parse_reaches h) (parse_length_lt h)

/-- A placeholder is read where an opening stands. -/
theorem opensAt_of_parse {c rest : Cursor} {p : Placeholder}
    (h : parse (c.seek p.selection.start.offset) = .ok (p, rest)) :
    OpensAt c p.selection.start.offset := by
  refine ⟨?_, (opens_iff_opening _).mp (opens_of_parse h)⟩
  conv => rhs; rw [selection_of_parse h]
  rfl

/-- Where nothing opens at the cursor, every opening lies behind its first
    character. -/
theorem opensAt_drop_iff {c : Cursor} (hopens : opens c ≠ true) {offset : Nat} :
    OpensAt c offset ↔ OpensAt (c.drop 1) offset := by
  have hreach := Cursor.reaches_drop 1 c
  constructor
  · intro h
    have hne : c.position.offset ≠ offset := by
      rintro rfl
      exact hopens (opensAt_self.mp h)
    have hlt : c.position.offset < (c.seek offset).position.offset := by
      rw [h.1]
      exact Nat.lt_of_le_of_ne h.offset_le hne
    have hle := h.reaches.drop_one_offset_le hlt
    rw [h.1] at hle
    exact (opensAt_iff_of_reaches hreach hle).mp h
  · intro h
    exact (opensAt_iff_of_reaches hreach h.offset_le).mpr h

namespace Located

/-- What stands at the cursor is the first placeholder, so the others are those
    after it. -/
theorem cons_iff {c rest : Cursor} {p : Placeholder} {stop : Nat} {found : List Placeholder}
    (hparse : parse c = .ok (p, rest)) :
    Located c stop (p :: found) ↔ rest.position.offset ≤ stop ∧ Located rest stop found := by
  have hreach := parse_reaches hparse
  have hselection := selection_of_parse hparse
  have hlt := offset_lt_of_parse hparse
  have hstart : p.selection.start.offset = c.position.offset := by rw [hselection]; rfl
  have hstop : p.selection.stop.offset = rest.position.offset := by rw [hselection]; rfl
  constructor
  · intro h
    obtain ⟨hhead, hordered⟩ := List.pairwise_cons.mp h.ordered
    have hafter : ∀ q ∈ found, rest.position.offset ≤ q.selection.start.offset := by
      intro q hq
      exact hstop ▸ hhead q hq
    refine ⟨hstop ▸ (h.inside p (by simp)).2.2, ?_, hordered, ?_, ?_⟩
    · intro q hq
      exact ⟨hafter q hq, (h.inside q (by simp [hq])).2⟩
    · intro q hq
      rw [← Cursor.Reaches.seek_eq hreach (hafter q hq)]
      exact h.parsed q (by simp [hq])
    · intro offset hoffset hopens
      have hle := hopens.offset_le
      obtain ⟨q, hq, hcovers⟩ :=
        h.covered offset hoffset ((opensAt_iff_of_reaches hreach hle).mpr hopens)
      rcases List.mem_cons.mp hq with rfl | hq
      · omega
      · exact ⟨q, hq, hcovers⟩
  · rintro ⟨hle, h⟩
    refine ⟨?_, List.pairwise_cons.mpr ⟨?_, h.ordered⟩, ?_, ?_⟩
    · intro q hq
      rcases List.mem_cons.mp hq with rfl | hq
      · omega
      · have hinside := h.inside q hq
        omega
    · intro q hq
      have hinside := h.inside q hq
      omega
    · intro q hq
      rcases List.mem_cons.mp hq with rfl | hq
      · exact ⟨rest, by rw [hstart, Cursor.seek_self, hparse]⟩
      · rw [Cursor.Reaches.seek_eq hreach (h.inside q hq).1]
        exact h.parsed q hq
    · intro offset hoffset hopens
      rcases Nat.lt_or_ge offset rest.position.offset with hbefore | hbehind
      · have hge := hopens.offset_le
        exact ⟨p, by simp, by omega⟩
      · obtain ⟨q, hq, hcovers⟩ :=
          h.covered offset hoffset ((opensAt_iff_of_reaches hreach hbehind).mp hopens)
        exact ⟨q, by simp [hq], hcovers⟩

/-- Where nothing opens at the cursor, the placeholders are those after its first
    character. -/
theorem drop_iff {c : Cursor} (hopens : opens c ≠ true) {stop : Nat}
    {found : List Placeholder} : Located c stop found ↔ Located (c.drop 1) stop found := by
  have hreach := Cursor.reaches_drop 1 c
  constructor
  · intro h
    have hafter : ∀ p ∈ found, (c.drop 1).position.offset ≤ p.selection.start.offset := by
      intro p hp
      obtain ⟨rest, hparse⟩ := h.parsed p hp
      have hopensAt : OpensAt c p.selection.start.offset := opensAt_of_parse hparse
      exact ((opensAt_drop_iff hopens).mp hopensAt).offset_le
    refine ⟨?_, h.ordered, ?_, ?_⟩
    · intro p hp
      exact ⟨hafter p hp, (h.inside p hp).2⟩
    · intro p hp
      rw [← hreach.seek_eq (hafter p hp)]
      exact h.parsed p hp
    · intro offset hoffset hopensAt
      exact h.covered offset hoffset ((opensAt_drop_iff hopens).mpr hopensAt)
  · intro h
    refine ⟨?_, h.ordered, ?_, ?_⟩
    · intro p hp
      have hinside := h.inside p hp
      have hle := hreach.offset_le
      omega
    · intro p hp
      rw [hreach.seek_eq (h.inside p hp).1]
      exact h.parsed p hp
    · intro offset hoffset hopensAt
      exact h.covered offset hoffset ((opensAt_drop_iff hopens).mp hopensAt)

/-- An opening at the cursor is covered by the first placeholder, which is the one
    that the parser gives there. -/
theorem exists_cons {c : Cursor} {stop : Nat} {found : List Placeholder}
    (h : Located c stop found) (hopens : opens c = true) (hstop : c.position.offset < stop) :
    ∃ p later rest, found = p :: later ∧ parse c = .ok (p, rest) := by
  obtain ⟨p, hp, hstart, hcovers⟩ := h.covered _ hstop (opensAt_self.mpr hopens)
  have hself : p.selection.start.offset = c.position.offset :=
    Nat.le_antisymm hstart (h.inside p hp).1
  obtain ⟨rest, hparse⟩ := h.parsed p hp
  rw [hself, Cursor.seek_self] at hparse
  cases found with
  | nil => cases hp
  | cons first later =>
    rcases List.mem_cons.mp hp with rfl | hlater
    · exact ⟨p, later, rest, rfl, hparse⟩
    · have hordered := (List.pairwise_cons.mp h.ordered).1 p hlater
      have hinside := h.inside first (by simp)
      omega

theorem nil_of_le {c : Cursor} {stop : Nat} (hstop : stop ≤ c.position.offset) :
    Located c stop [] := by
  refine ⟨by simp, .nil, by simp, ?_⟩
  intro offset hoffset hopensAt
  have hle := hopensAt.offset_le
  omega

theorem eq_nil_of_le {c : Cursor} {stop : Nat} {found : List Placeholder}
    (h : Located c stop found) (hstop : stop ≤ c.position.offset) : found = [] := by
  cases found with
  | nil => rfl
  | cons p later =>
    have hinside := h.inside p (by simp)
    omega

end Located

/-- The scan gives the placeholders of the text ahead, and only those. -/
theorem scan_eq_ok_iff {c : Cursor} {found : List Placeholder} :
    scan c = .ok found ↔ Located c c.endOffset found := by
  fun_induction scan c generalizing found with
  | case1 c hend =>
    constructor
    · intro h
      cases h
      exact Located.nil_of_le (Nat.le_of_eq (Cursor.endOffset_of_end hend))
    · intro h
      rw [h.eq_nil_of_le (Nat.le_of_eq (Cursor.endOffset_of_end hend))]
  | case2 c hend hopens f hparse =>
    constructor
    · intro h
      cases h
    · intro h
      obtain ⟨p, later, rest, _, hfound⟩ := h.exists_cons hopens (Cursor.offset_lt_endOffset hend)
      rw [hparse] at hfound
      cases hfound
  | case3 c hend hopens p rest hparse later hscan ih =>
    have hreach := parse_reaches hparse
    have hlater := ih.mp hscan
    rw [Cursor.Reaches.endOffset_eq hreach] at hlater
    constructor
    · intro h
      cases h
      exact (Located.cons_iff hparse).mpr ⟨Cursor.Reaches.offset_le_endOffset hreach, hlater⟩
    · intro h
      obtain ⟨q, others, _, rfl, hfound⟩ := h.exists_cons hopens (Cursor.offset_lt_endOffset hend)
      rw [hparse] at hfound
      cases hfound
      have hothers := ((Located.cons_iff hparse).mp h).2
      rw [← Cursor.Reaches.endOffset_eq hreach] at hothers
      rw [Except.ok.inj (hscan.symm.trans (ih.mpr hothers))]
  | case4 c hend hopens p rest hparse f hscan ih =>
    constructor
    · intro h
      cases h
    · intro h
      obtain ⟨q, others, _, rfl, hfound⟩ := h.exists_cons hopens (Cursor.offset_lt_endOffset hend)
      rw [hparse] at hfound
      cases hfound
      have hothers := ((Located.cons_iff hparse).mp h).2
      rw [← Cursor.Reaches.endOffset_eq (parse_reaches hparse)] at hothers
      cases hscan.symm.trans (ih.mpr hothers)
  | case5 c hend hopens ih =>
    rw [Located.drop_iff hopens, ih, (Cursor.reaches_drop 1 c).endOffset_eq]

/-- Whether the first opening behind the placeholders at a cursor is one that the
    parser refuses, for the reason `f`. -/
def RefusedFor (c : Cursor) (f : Failure) : Prop :=
  ∃ offset before, Located c offset before ∧ OpensAt c offset ∧
    parse (c.seek offset) = .error f

namespace RefusedFor

theorem ahead_ne_nil {c : Cursor} {f : Failure} (h : RefusedFor c f) : c.ahead ≠ [] := by
  obtain ⟨offset, _, _, hopensAt, _⟩ := h
  obtain ⟨taken, htaken, _⟩ := hopensAt.reaches
  obtain ⟨-, space, rest, hopening, -⟩ := hopensAt
  rw [hopening] at htaken
  simp [htaken]

theorem iff_of_error {c : Cursor} {f g : Failure} (hopens : opens c = true)
    (hparse : parse c = .error g) : RefusedFor c f ↔ g = f := by
  constructor
  · rintro ⟨offset, before, hbefore, hopensAt, hfails⟩
    rcases Nat.eq_or_lt_of_le hopensAt.offset_le with rfl | hlt
    · rw [Cursor.seek_self, hparse] at hfails
      exact Except.error.inj hfails
    · obtain ⟨p, later, rest, _, hfound⟩ := hbefore.exists_cons hopens hlt
      rw [hparse] at hfound
      cases hfound
  · rintro rfl
    exact ⟨c.position.offset, [], Located.nil_of_le (Nat.le_refl _), opensAt_self.mpr hopens,
      by rw [Cursor.seek_self, hparse]⟩

theorem iff_of_parse {c rest : Cursor} {p : Placeholder} {f : Failure} (hopens : opens c = true)
    (hparse : parse c = .ok (p, rest)) : RefusedFor c f ↔ RefusedFor rest f := by
  have hreach := parse_reaches hparse
  constructor
  · rintro ⟨offset, before, hbefore, hopensAt, hfails⟩
    rcases Nat.eq_or_lt_of_le hopensAt.offset_le with rfl | hlt
    · rw [Cursor.seek_self, hparse] at hfails
      cases hfails
    · obtain ⟨q, later, _, rfl, hfound⟩ := hbefore.exists_cons hopens hlt
      rw [hparse] at hfound
      cases hfound
      obtain ⟨hle, hlater⟩ := (Located.cons_iff hparse).mp hbefore
      rw [Cursor.Reaches.seek_eq hreach hle] at hfails
      exact ⟨offset, later, hlater, (opensAt_iff_of_reaches hreach hle).mp hopensAt, hfails⟩
  · rintro ⟨offset, before, hbefore, hopensAt, hfails⟩
    have hle := hopensAt.offset_le
    rw [← Cursor.Reaches.seek_eq hreach hle] at hfails
    exact ⟨offset, p :: before, (Located.cons_iff hparse).mpr ⟨hle, hbefore⟩,
      (opensAt_iff_of_reaches hreach hle).mpr hopensAt, hfails⟩

theorem drop_iff {c : Cursor} {f : Failure} (hopens : opens c ≠ true) :
    RefusedFor c f ↔ RefusedFor (c.drop 1) f := by
  have hreach := Cursor.reaches_drop 1 c
  constructor
  · rintro ⟨offset, before, hbefore, hopensAt, hfails⟩
    have hle := (opensAt_drop_iff hopens).mp hopensAt |>.offset_le
    rw [hreach.seek_eq hle] at hfails
    exact ⟨offset, before, (Located.drop_iff hopens).mp hbefore,
      (opensAt_drop_iff hopens).mp hopensAt, hfails⟩
  · rintro ⟨offset, before, hbefore, hopensAt, hfails⟩
    rw [← hreach.seek_eq hopensAt.offset_le] at hfails
    exact ⟨offset, before, (Located.drop_iff hopens).mpr hbefore,
      (opensAt_drop_iff hopens).mpr hopensAt, hfails⟩

end RefusedFor

/-- The scan fails at the first opening outside of the placeholders before it that
    the parser refuses, and only there. -/
theorem scan_eq_error_iff {c : Cursor} {f : Failure} :
    scan c = .error f ↔ RefusedFor c f := by
  fun_induction scan c with
  | case1 c hend =>
    constructor
    · intro h
      cases h
    · intro h
      exact absurd hend h.ahead_ne_nil
  | case2 c hend hopens g hparse =>
    rw [RefusedFor.iff_of_error hopens hparse, Except.error.injEq]
  | case3 c hend hopens p rest hparse later hscan ih =>
    rw [RefusedFor.iff_of_parse hopens hparse, ← ih, hscan]
    simp
  | case4 c hend hopens p rest hparse g hscan ih =>
    rw [RefusedFor.iff_of_parse hopens hparse, ← ih, hscan]
  | case5 c hend hopens ih =>
    rw [RefusedFor.drop_iff hopens, ih]

/-- Locating gives the placeholders of the text, the last one first: no other list
    has their properties. It fails exactly where the scan from the left meets an
    opening, outside of every placeholder before it, that the parser refuses, and
    then for the parser's reason. -/
theorem locate_spec (c : Cursor) :
    (∀ found, locate c = .ok found ↔ Located c c.endOffset found.reverse ∧
      ∀ others, Located c c.endOffset others → others = found.reverse) ∧
    ∀ error, locate c = .error error ↔ ∃ f, RefusedFor c f ∧
      error = ⟨.malformedPlaceholder, .parse f.problem, some f.position⟩ := by
  unfold locate
  constructor
  · intro found
    constructor
    · intro h
      split at h
      · next listed hscan =>
        cases h
        rw [List.reverse_reverse]
        refine ⟨scan_eq_ok_iff.mp hscan, ?_⟩
        intro others hothers
        exact Except.ok.inj ((scan_eq_ok_iff.mpr hothers).symm.trans hscan)
      · cases h
    · rintro ⟨hfound, -⟩
      rw [scan_eq_ok_iff.mpr hfound]
      simp
  · intro error
    constructor
    · intro h
      split at h
      · cases h
      · next f hscan =>
        cases h
        have hrefused := scan_eq_error_iff.mp hscan
        refine ⟨f, hrefused, ?_⟩
        obtain ⟨_, _, _, _, hfails⟩ := hrefused
        simp [RenderError.ofFailure, parse_unclassified hfails]
    · rintro ⟨f, hrefused, rfl⟩
      rw [scan_eq_error_iff.mpr hrefused]
      obtain ⟨_, _, _, _, hfails⟩ := hrefused
      simp [RenderError.ofFailure, parse_unclassified hfails]

end Placeholder

end StaticPages
