import StaticPages.Proofs.Text.Space
import StaticPages.Proofs.Text.Units
import StaticPages.Source.Cursor

namespace StaticPages

namespace Cursor

/-- Where the text ahead of a cursor ends. -/
def endOffset (c : Cursor) : Nat :=
  c.position.offset + Text.size c.ahead

theorem endOffset_of_end {c : Cursor} (h : c.ahead = []) : c.endOffset = c.position.offset := by
  simp [endOffset, h, Text.size]

theorem offset_lt_endOffset {c : Cursor} (h : c.ahead ≠ []) :
    c.position.offset < c.endOffset := by
  have hsize : Text.size c.ahead ≠ 0 := fun hzero => h (Text.size_eq_zero hzero)
  simp only [endOffset]
  omega

namespace Reaches

theorem offset_le {c d : Cursor} (h : c.Reaches d) : c.position.offset ≤ d.position.offset := by
  obtain ⟨taken, _, hposition⟩ := h
  rw [hposition, Position.after_offset]
  omega

/-- Text is only passed over, never made, so all cursors over it see one end. -/
theorem endOffset_eq {c d : Cursor} (h : c.Reaches d) : d.endOffset = c.endOffset := by
  obtain ⟨taken, hahead, hposition⟩ := h
  rw [endOffset, endOffset, hposition, Position.after_offset, hahead, Text.size_append]
  omega

theorem offset_le_endOffset {c d : Cursor} (h : c.Reaches d) :
    d.position.offset ≤ c.endOffset := by
  rw [← h.endOffset_eq]
  exact Nat.le_add_right _ _

/-- Passing over text that is not empty moves forward. -/
theorem offset_lt {c d : Cursor} (h : c.Reaches d) (hlength : d.ahead.length < c.ahead.length) :
    c.position.offset < d.position.offset := by
  obtain ⟨taken, hahead, hposition⟩ := h
  rw [hposition, Position.after_offset]
  have hsize : Text.size taken ≠ 0 := by
    intro hzero
    rw [hahead, Text.size_eq_zero hzero] at hlength
    simp at hlength
  omega

/-- Two places that are reached from one cursor and have the same text ahead are
    the same place. -/
theorem eq_of_ahead {c d e : Cursor} (hd : c.Reaches d) (he : c.Reaches e)
    (hahead : d.ahead = e.ahead) : d = e := by
  obtain ⟨xs, hxs, hd⟩ := hd
  obtain ⟨ys, hys, he⟩ := he
  have htaken : xs = ys := by
    rw [hahead] at hxs
    exact List.append_cancel_right (hxs.symm.trans hys)
  cases d
  cases e
  simp_all

/-- Seeking does not depend on the place that it starts from. -/
theorem seek_eq {c d : Cursor} (h : c.Reaches d) {offset : Nat}
    (hoffset : d.position.offset ≤ offset) : c.seek offset = d.seek offset := by
  obtain ⟨taken, hahead, hposition⟩ := h
  have hstep : d.position.offset = c.position.offset + Text.size taken := by
    rw [hposition, Position.after_offset]
  have hcount : offset - c.position.offset = Text.size taken + (offset - d.position.offset) := by
    omega
  simp only [seek, advance, hcount, hahead, hposition, Text.takeUnits_size_add,
    Text.dropUnits_size_add, Position.after_append]

end Reaches

/-- The text ahead of a reached cursor follows what was passed over, and its first
    character is not passed over in part. -/
theorem Reaches.drop_one_offset_le {c d : Cursor} (h : c.Reaches d)
    (hlt : c.position.offset < d.position.offset) :
    (c.drop 1).position.offset ≤ d.position.offset := by
  obtain ⟨taken, hahead, hposition⟩ := h
  rw [hposition, Position.after_offset] at hlt ⊢
  cases taken with
  | nil => simp [Text.size] at hlt
  | cons x taken =>
    simp only [drop, hahead, List.cons_append, List.take_succ_cons, List.take_zero,
      Position.after_cons, Position.after_nil, Position.step, Text.size]
    omega

/-- A cursor moves on by the units that it consumes, but not past the end. -/
theorem advance_offset (n : Nat) (c : Cursor) :
    (c.advance n).position.offset = min (c.position.offset + n) c.endOffset := by
  rw [advance, Position.after_offset, Text.size_takeUnits, endOffset]
  omega

theorem advance_min (n : Nat) (c : Cursor) :
    c.advance (min n (Text.size c.ahead)) = c.advance n := by
  rcases Nat.le_total n (Text.size c.ahead) with hle | hge
  · rw [Nat.min_eq_left hle]
  · simp only [advance, Nat.min_eq_right hge, Text.takeUnits_of_size_le hge,
      Text.dropUnits_of_size_le hge, Text.takeUnits_of_size_le (Nat.le_refl _),
      Text.dropUnits_of_size_le (Nat.le_refl _)]

/-- Unless half of a character is left ahead, an advance passes over text that stands there. -/
theorem reaches_advance {n : Nat} {c : Cursor} (h : (c.advance n).head? ≠ some Text.half) :
    c.Reaches (c.advance n) :=
  ⟨Text.takeUnits n c.ahead, (Text.takeUnits_append_dropUnits h).symm, rfl⟩

@[simp] theorem seek_self (c : Cursor) : c.seek c.position.offset = c := by
  simp [seek, advance]

/-- A reached cursor is the one that is sought at its offset. -/
theorem Reaches.seek_offset {c d : Cursor} (h : c.Reaches d) : c.seek d.position.offset = d := by
  rw [h.seek_eq (Nat.le_refl _), seek_self]

theorem ahead_skipWhile {f : Char → Bool} {xs ys : List Char} {c : Cursor}
    (h : c.ahead = xs ++ ys) (hxs : ∀ x ∈ xs, f x = true) (hys : Text.Stops f ys) :
    (c.skipWhile f).ahead = ys := by
  simp only [skipWhile, h, Text.dropWhile_append_of_stops hxs hys]

theorem stops_skipWhile (f : Char → Bool) (c : Cursor) : Text.Stops f (c.skipWhile f).ahead :=
  Text.stops_dropWhile f c.ahead

/-- What `skipWhile` passes over. -/
theorem exists_skipWhile (f : Char → Bool) (c : Cursor) :
    ∃ xs, c.ahead = xs ++ (c.skipWhile f).ahead ∧ ∀ x ∈ xs, f x = true :=
  ⟨c.ahead.takeWhile f, List.takeWhile_append_dropWhile.symm, fun _ => Text.mem_takeWhile⟩

theorem startsWith_iff {token : String} {c : Cursor} :
    c.startsWith token = true ↔ ∃ rest, c.ahead = token.toList ++ rest := by
  rw [startsWith, List.isPrefixOf_iff_prefix]
  exact ⟨fun ⟨rest, h⟩ => ⟨rest, h.symm⟩, fun ⟨rest, h⟩ => ⟨rest, h.symm⟩⟩

theorem exists_after? {token : String} {rest : List Char} {c : Cursor}
    (h : c.ahead = token.toList ++ rest) : ∃ d, c.after? token = some d ∧ d.ahead = rest := by
  refine ⟨c.drop token.toList.length, ?_, by simp [drop, h]⟩
  rw [after?, if_pos (startsWith_iff.mpr ⟨rest, h⟩)]

theorem ahead_of_after? {token : String} {c d : Cursor} (h : c.after? token = some d) :
    c.ahead = token.toList ++ d.ahead := by
  unfold after? at h
  split at h
  · next hstart =>
    cases h
    obtain ⟨rest, hrest⟩ := startsWith_iff.mp hstart
    simp [drop, hrest]
  · cases h

theorem after?_eq_none_iff {token : String} {c : Cursor} :
    c.after? token = none ↔ ∀ rest, c.ahead ≠ token.toList ++ rest := by
  rw [after?]
  split
  · next hstart =>
    obtain ⟨rest, hrest⟩ := startsWith_iff.mp hstart
    simpa using ⟨rest, hrest⟩
  · next hstart =>
    simpa using fun rest hrest => hstart (startsWith_iff.mpr ⟨rest, hrest⟩)

end Cursor

end StaticPages
