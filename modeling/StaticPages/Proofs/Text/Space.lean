import StaticPages.Text.Space

namespace StaticPages.Text

/-- Whether no character of a class stands at the front of a text, so that a run
    of the class ends there. -/
def Stops (f : Char → Bool) (cs : List Char) : Prop :=
  ∀ c, cs.head? = some c → f c = false

theorem stops_nil (f : Char → Bool) : Stops f [] := by
  simp [Stops]

@[simp] theorem stops_cons {f : Char → Bool} {c : Char} {cs : List Char} :
    Stops f (c :: cs) ↔ f c = false := by
  simp [Stops]

theorem Stops.append {f : Char → Bool} {xs ys : List Char} (hxs : Stops f xs)
    (hys : Stops f ys) : Stops f (xs ++ ys) := by
  cases xs with
  | nil => exact hys
  | cons x xs => exact stops_cons.mpr (stops_cons.mp hxs)

theorem stops_append {f : Char → Bool} {xs ys : List Char} (hxs : ∀ x ∈ xs, f x = false)
    (hys : Stops f ys) : Stops f (xs ++ ys) :=
  Stops.append (fun x hx => hxs x (List.mem_of_mem_head? hx)) hys

theorem stops_dropWhile (f : Char → Bool) (cs : List Char) : Stops f (cs.dropWhile f) := by
  intro c hc
  have hnot := List.head?_dropWhile_not f cs
  rw [hc] at hnot
  simpa using hnot

theorem dropWhile_of_stops {f : Char → Bool} {cs : List Char} (h : Stops f cs) :
    cs.dropWhile f = cs := by
  cases cs with
  | nil => rfl
  | cons c cs => simp [stops_cons.mp h]

theorem takeWhile_append_of_stops {f : Char → Bool} {xs ys : List Char}
    (hxs : ∀ x ∈ xs, f x = true) (hys : Stops f ys) : (xs ++ ys).takeWhile f = xs := by
  rw [List.takeWhile_append_of_pos hxs]
  cases ys with
  | nil => simp
  | cons y ys => simp [stops_cons.mp hys]

theorem dropWhile_append_of_stops {f : Char → Bool} {xs ys : List Char}
    (hxs : ∀ x ∈ xs, f x = true) (hys : Stops f ys) : (xs ++ ys).dropWhile f = ys := by
  rw [List.dropWhile_append_of_pos hxs, dropWhile_of_stops hys]

theorem mem_takeWhile {f : Char → Bool} {cs : List Char} {x : Char} (h : x ∈ cs.takeWhile f) :
    f x = true :=
  List.all_eq_true.mp List.all_takeWhile x h

theorem trimEndChars_append {xs ys : List Char} (h : ∀ y ∈ ys, isSpace y = true) :
    trimEndChars (xs ++ ys) = trimEndChars xs := by
  rw [trimEndChars, trimEndChars, List.reverse_append, List.dropWhile_append_of_pos]
  intro y hy
  exact h y (List.mem_reverse.mp hy)

theorem length_trimEndChars_le (cs : List Char) : (trimEndChars cs).length ≤ cs.length := by
  have hle := (List.dropWhile_sublist (l := cs.reverse) isSpace).length_le
  simpa [trimEndChars] using hle

/-- A text that trimming does not change begins with no white space. -/
theorem stops_of_trimChars {cs : List Char} (h : trimChars cs = cs) : Stops isSpace cs := by
  cases cs with
  | nil => exact stops_nil _
  | cons c cs =>
    rw [stops_cons, Bool.eq_false_iff]
    intro hspace
    have hle := length_trimEndChars_le (cs.dropWhile isSpace)
    have hdrop := (List.dropWhile_sublist (l := cs) isSpace).length_le
    have hlength := congrArg List.length h
    simp only [trimChars, List.dropWhile_cons, hspace, if_true, List.length_cons] at hlength
    omega

theorem Stops.blank {cs : List Char} (h : Stops isSpace cs) : Stops isBlank cs := by
  intro c hc
  have hnot := h c hc
  rw [Bool.eq_false_iff] at hnot ⊢
  exact fun hblank => hnot (isSpace_of_isBlank hblank)

theorem lineFeed_not_mem {cs : List Char} (h : ∀ c ∈ cs, isBlank c = true) : '\n' ∉ cs :=
  fun hmem => nomatch h _ hmem

theorem trimChars_of_forall {cs : List Char} (h : ∀ c ∈ cs, isSpace c = false) :
    trimChars cs = cs := by
  have hfront : Stops isSpace cs := fun c hc => h c (List.mem_of_mem_head? hc)
  have hback : Stops isSpace cs.reverse :=
    fun c hc => h c (List.mem_reverse.mp (List.mem_of_mem_head? hc))
  rw [trimChars, dropWhile_of_stops hfront, trimEndChars, dropWhile_of_stops hback,
    List.reverse_reverse]

theorem isSpace_of_isDigit {c : Char} (h : c.isDigit = true) : isSpace c = false := by
  have hrange := Char.isDigit_iff_toNat.mp h
  have hzero : '0'.toNat = 48 := rfl
  have hnine : '9'.toNat = 57 := rfl
  simp only [isSpace, Bool.or_eq_false_iff, Bool.and_eq_false_iff, decide_eq_false_iff_not,
    beq_eq_false_iff_ne]
  omega

theorem isSpace_of_isAlpha {c : Char} (h : c.isAlpha = true) : isSpace c = false := by
  have hrange : (65 ≤ c.toNat ∧ c.toNat ≤ 90) ∨ (97 ≤ c.toNat ∧ c.toNat ≤ 122) := by
    have hcase : (c.isUpper || c.isLower) = true := h
    rcases Bool.or_eq_true_iff.mp hcase with hupper | hlower
    · have hbounds : 'A'.val ≤ c.val ∧ c.val ≤ 'Z'.val := of_decide_eq_true hupper
      exact .inl hbounds
    · have hbounds : (decide ('a'.val ≤ c.val) && decide (c.val ≤ 'z'.val)) = true := hlower
      obtain ⟨hleast, hgreatest⟩ := Bool.and_eq_true_iff.mp hbounds
      exact .inr ⟨of_decide_eq_true hleast, of_decide_eq_true hgreatest⟩
  simp only [isSpace, Bool.or_eq_false_iff, Bool.and_eq_false_iff, decide_eq_false_iff_not,
    beq_eq_false_iff_ne]
  omega

/-- White space behind a text is trimmed away with the white space in it. -/
theorem trimChars_append {xs ys : List Char} (hys : ∀ y ∈ ys, isSpace y = true) :
    trimChars (xs ++ ys) = trimChars xs := by
  rw [trimChars, trimChars, List.dropWhile_append]
  split
  · next hempty =>
    have hdrop : ys.dropWhile isSpace = [] := by
      rw [← List.append_nil ys, List.dropWhile_append_of_pos hys, List.dropWhile_nil]
    rw [hdrop, List.isEmpty_iff.mp hempty]
  · exact trimEndChars_append hys

/-- Passing over blanks first does not change where white space ends. -/
theorem dropWhile_isSpace_dropWhile_isBlank (cs : List Char) :
    (cs.dropWhile isBlank).dropWhile isSpace = cs.dropWhile isSpace := by
  have hblank : ∀ x ∈ cs.takeWhile isBlank, isSpace x = true :=
    fun x hx => isSpace_of_isBlank (mem_takeWhile hx)
  conv => rhs; rw [← List.takeWhile_append_dropWhile (p := isBlank) (l := cs)]
  rw [List.dropWhile_append_of_pos hblank]

/-- A text without white space is what is left of it with white space on both sides. -/
theorem trimChars_enclosed {before cs after : List Char}
    (hcs : ∀ c ∈ cs, isSpace c = false) (hbefore : ∀ x ∈ before, isSpace x = true)
    (hafter : ∀ x ∈ after, isSpace x = true) : trimChars (before ++ (cs ++ after)) = cs := by
  have hdrop : trimChars (before ++ (cs ++ after)) = trimChars (cs ++ after) := by
    rw [trimChars, trimChars, List.dropWhile_append_of_pos hbefore]
  rw [hdrop, trimChars_append hafter, trimChars_of_forall hcs]

end StaticPages.Text
