import Mathlib.Data.List.Infix
import StaticPages.Text.Split

namespace StaticPages.Text

@[simp] theorem extend_ne_nil (c : Char) (pieces : List (List Char)) : extend c pieces ≠ [] := by
  cases pieces <;> simp [extend]

@[simp] theorem flatten_extend (c : Char) (pieces : List (List Char)) :
    (extend c pieces).flatten = c :: pieces.flatten := by
  cases pieces <;> rfl

theorem split_ne_nil (separator text : List Char) : split separator text ≠ [] := by
  cases text <;> rw [split]
  · simp
  · split <;> simp

/-- Whether `find`, where it stands between two parts of a text, stands nowhere further to
    the left. -/
def IsLeftmost (find piece rest : List Char) : Prop :=
  ∀ front back, piece ++ (find ++ rest) = front ++ (find ++ back) → piece.length ≤ front.length

/-- Where `find` does not begin, its first place is the first one further on. -/
theorem IsLeftmost.cons {find part rest : List Char} (h : IsLeftmost find part rest) {c : Char}
    (hnot : ¬ find <+: c :: (part ++ (find ++ rest))) : IsLeftmost find (c :: part) rest := by
  intro front back hsame
  cases front with
  | nil => exact absurd ⟨back, hsame.symm⟩ hnot
  | cons head front =>
    rw [List.cons_append, List.cons_append, List.cons.injEq] at hsame
    exact Nat.succ_le_succ (h front back hsame.2)

theorem IsLeftmost.tail {find part rest : List Char} {c : Char}
    (h : IsLeftmost find (c :: part) rest) :
    ¬ find <+: c :: (part ++ (find ++ rest)) ∧ IsLeftmost find part rest := by
  constructor
  · rintro ⟨back, hback⟩
    exact absurd (h [] back hback.symm) (by simp)
  · exact fun front back hsame =>
      Nat.le_of_succ_le_succ (h (c :: front) back (congrArg (c :: ·) hsame))

/-- The places where `find` stands in a text, from left to right: the parts before each of
    them, and the last part, behind all of them. Each place is the leftmost one behind the
    place before it, and there is none in the last part. -/
inductive Places (find : List Char) : List Char → List (List Char) → List Char → Prop where
  | none {text : List Char} (hnone : ¬ find <:+: text) : Places find text [] text
  | cons {part rest last : List Char} {parts : List (List Char)}
      (hfirst : IsLeftmost find part rest) (hrest : Places find rest parts last) :
      Places find (part ++ (find ++ rest)) (part :: parts) last

theorem infix_of_append (part find rest : List Char) : find <:+: part ++ (find ++ rest) :=
  ⟨part, rest, List.append_assoc _ _ _⟩

/-- A text has one sequence of such places only. -/
theorem Places.unique {find text last last' : List Char} {parts parts' : List (List Char)}
    (h : Places find text parts last) (h' : Places find text parts' last') :
    parts' = parts ∧ last' = last := by
  induction h generalizing parts' with
  | none hnone =>
    cases h' with
    | none => exact ⟨rfl, rfl⟩
    | cons => exact absurd (infix_of_append _ _ _) hnone
  | @cons part rest last parts hfirst hrest ih =>
    generalize htext : part ++ (find ++ rest) = text at h'
    cases h' with
    | none hnone => exact absurd (htext ▸ infix_of_append _ _ _) hnone
    | @cons part' rest' _ parts' hfirst' hrest' =>
      have hlength : part.length = part'.length :=
        Nat.le_antisymm (hfirst _ _ htext) (hfirst' _ _ htext.symm)
      obtain ⟨rfl, hsame⟩ := List.append_inj htext hlength
      cases List.append_cancel_left hsame
      obtain ⟨rfl, rfl⟩ := ih hrest'
      exact ⟨rfl, rfl⟩

/-- What `find` begins with, and what is left of it. -/
theorem eq_append_drop {find rest : List Char} {c : Char} (hne : find ≠ [])
    (h : find <+: c :: rest) : c :: rest = find ++ rest.drop (find.length - 1) := by
  obtain ⟨behind, hbehind⟩ := h
  cases find with
  | nil => exact absurd rfl hne
  | cons d find =>
    obtain ⟨rfl, rfl⟩ := List.cons.inj hbehind
    simp

/-- Splitting a text gives the parts between the places of the separator. -/
theorem exists_split {find : List Char} (hne : find ≠ []) (text : List Char) :
    ∃ parts last, split find text = parts ++ [last] ∧ Places find text parts last := by
  fun_induction split find text with
  | case1 => exact ⟨[], [], rfl, .none (by simpa using hne)⟩
  | case2 c rest hbegins ih =>
    obtain ⟨parts, last, hsplit, hplaces⟩ := ih
    refine ⟨[] :: parts, last, congrArg ([] :: ·) hsplit, ?_⟩
    rw [eq_append_drop hne (List.isPrefixOf_iff_prefix.mp hbegins)]
    have hfirst : IsLeftmost find [] (rest.drop (find.length - 1)) := fun _ _ _ => Nat.zero_le _
    exact .cons hfirst hplaces
  | case3 c rest hbegins ih =>
    obtain ⟨parts, last, hsplit, hplaces⟩ := ih
    rw [List.isPrefixOf_iff_prefix] at hbegins
    rw [hsplit]
    cases hplaces with
    | none hnone =>
      refine ⟨[], c :: rest, rfl, .none fun hinfix => ?_⟩
      exact (List.infix_cons_iff.mp hinfix).elim hbegins hnone
    | cons hfirst hrest =>
      exact ⟨(c :: _) :: _, last, rfl, .cons (hfirst.cons hbegins) hrest⟩

theorem cut?_of_not_infix {find text : List Char} (h : ¬ find <:+: text) : cut? find text = none := by
  induction text with
  | nil => rfl
  | cons c rest ih =>
    rw [List.infix_cons_iff, not_or] at h
    have hbegins : ¬ find.isPrefixOf (c :: rest) := fun hp => h.1 (List.isPrefixOf_iff_prefix.mp hp)
    rw [cut?, if_neg hbegins, ih h.2]
    rfl

/-- The first place is found, whatever follows it. -/
theorem cut?_of_isLeftmost {find part rest : List Char} (hne : find ≠ [])
    (hfirst : IsLeftmost find part rest) : cut? find (part ++ (find ++ rest)) = some (part, rest) := by
  induction part with
  | nil =>
    cases find with
    | nil => exact absurd rfl hne
    | cons d find =>
      have hbegins : (d :: find).isPrefixOf (d :: (find ++ rest)) :=
        List.isPrefixOf_iff_prefix.mpr ⟨rest, rfl⟩
      rw [List.nil_append, List.cons_append, cut?, if_pos hbegins]
      simp
  | cons c part ih =>
    obtain ⟨hbegins, htail⟩ := hfirst.tail
    rw [← List.isPrefixOf_iff_prefix] at hbegins
    rw [List.cons_append, cut?, if_neg hbegins, ih htail]
    rfl

end StaticPages.Text
