import Mathlib.Data.List.Induction
import StaticPages.Files.Path

namespace StaticPages.Path

/-- Whether a path is another one or a directory above it. -/
def AtOrAbove (q p : Path) : Prop :=
  q.names <+: p.names

@[simp] theorem child_inj {p q : Path} {name : String} :
    p.child name = q.child name ↔ p = q := by
  obtain ⟨names⟩ := p
  obtain ⟨others⟩ := q
  simp [child]

theorem atOrAbove_root_iff {q : Path} : q.AtOrAbove root ↔ q = root := by
  cases q
  simp [AtOrAbove, root]

theorem atOrAbove_child_iff {q p : Path} {name : String} :
    q.AtOrAbove (p.child name) ↔ q = p.child name ∨ q.AtOrAbove p := by
  cases q
  simp [AtOrAbove, child, List.prefix_concat_iff]

theorem AtOrAbove.antisymm {p q : Path} (hpq : p.AtOrAbove q) (hqp : q.AtOrAbove p) : p = q := by
  cases p
  cases q
  exact congrArg Path.mk (hpq.eq_of_length_le hqp.length_le)

/-- A path is the root or the child of a path. -/
theorem child_induction {motive : Path → Prop} (root : motive root)
    (child : ∀ p name, motive p → motive (p.child name)) (p : Path) : motive p := by
  obtain ⟨names⟩ := p
  induction names using List.reverseRecOn with
  | nil => exact root
  | append_singleton names name ih => exact child ⟨names⟩ name ih

@[simp] theorem parent_child (p : Path) (name : String) : (p.child name).parent = p := by
  simp [child, parent]

theorem child_ne (p : Path) (name : String) : p ≠ p.child name := by
  intro h
  have hlength := congrArg (fun q => q.names.length) h
  simp [child] at hlength

/-- Only the root is its own parent. -/
theorem parent_eq_self_iff {p : Path} : p.parent = p ↔ p = root := by
  induction p using child_induction with
  | root => exact iff_of_true rfl rfl
  | child p name =>
    rw [parent_child]
    refine iff_of_false (child_ne p name) fun h => ?_
    have hnames := congrArg names h
    simp [child, root] at hnames

theorem exists_child {p : Path} (h : p.parent ≠ p) : ∃ name, p = p.parent.child name := by
  induction p using child_induction with
  | root => exact absurd rfl h
  | child p name => exact ⟨name, by rw [parent_child]⟩

theorem upwards_child (p : Path) (name : String) :
    (p.child name).upwards = p.child name :: p.upwards := by
  simp [upwards, child, above]

theorem mem_upwards_iff {q p : Path} : q ∈ p.upwards ↔ q.AtOrAbove p := by
  induction p using child_induction with
  | root => rw [atOrAbove_root_iff]; exact List.mem_singleton
  | child p name ih => rw [upwards_child, List.mem_cons, ih, atOrAbove_child_iff]

/-- The nearest path, from a directory upwards, that has something: any other one at or
    above the directory that has it is above this one too. -/
structure IsNearest (has : Path → Prop) (directory p : Path) : Prop where
  above : p.AtOrAbove directory
  holds : has p
  nearest : ∀ q, q.AtOrAbove directory → has q → q.AtOrAbove p

section Nearest

variable {has : Path → Prop} {directory p q : Path} {name : String}

theorem isNearest_self (h : has p) : IsNearest has p p :=
  ⟨List.prefix_rfl, h, fun _ hq _ => hq⟩

theorem IsNearest.eq (hp : IsNearest has directory p) (hq : IsNearest has directory q) : p = q :=
  (hq.nearest p hp.above hp.holds).antisymm (hp.nearest q hq.above hq.holds)

/-- A directory that does not have it is passed over. -/
theorem isNearest_child_iff (h : ¬ has (directory.child name)) :
    IsNearest has (directory.child name) p ↔ IsNearest has directory p := by
  have hsame : ∀ q, has q → (q.AtOrAbove (directory.child name) ↔ q.AtOrAbove directory) := by
    intro q hq
    rw [atOrAbove_child_iff, or_iff_right]
    rintro rfl
    exact h hq
  constructor
  · rintro ⟨habove, hp, hnearest⟩
    exact ⟨(hsame p hp).mp habove, hp, fun q hq hhas => hnearest q ((hsame q hhas).mpr hq) hhas⟩
  · rintro ⟨habove, hp, hnearest⟩
    exact ⟨(hsame p hp).mpr habove, hp, fun q hq hhas => hnearest q ((hsame q hhas).mp hq) hhas⟩

end Nearest

/-- A search upwards finds the nearest path. -/
theorem find?_upwards_eq_some_iff {has : Path → Bool} {directory p : Path} :
    directory.upwards.find? has = some p ↔ IsNearest (has · = true) directory p := by
  have hself : ∀ start, has start = true →
      (some start = some p ↔ IsNearest (has · = true) start p) := by
    intro start hstart
    rw [Option.some.injEq]
    constructor
    · rintro rfl
      exact isNearest_self hstart
    · exact (isNearest_self hstart).eq
  induction directory using child_induction with
  | root =>
    change [root].find? has = some p ↔ _
    cases hroot : has root with
    | true =>
      rw [List.find?_cons_of_pos hroot]
      exact hself root hroot
    | false =>
      rw [List.find?_cons_of_neg (by simp [hroot])]
      constructor
      · nofun
      · rintro ⟨habove, hp, -⟩
        rw [atOrAbove_root_iff.mp habove, hroot] at hp
        cases hp
  | child directory name ih =>
    rw [upwards_child]
    cases hchild : has (directory.child name) with
    | true =>
      rw [List.find?_cons_of_pos hchild]
      exact hself _ hchild
    | false =>
      rw [List.find?_cons_of_neg (by simp [hchild])]
      exact ih.trans (isNearest_child_iff (by simp [hchild])).symm

/-- A search upwards finds nothing where no path at or above the directory has it. -/
theorem find?_upwards_eq_none_iff {has : Path → Bool} {directory : Path} :
    directory.upwards.find? has = none ↔ ∀ p, p.AtOrAbove directory → has p = false := by
  simp [List.find?_eq_none, mem_upwards_iff]

/-- Every name leads further down, and is a piece of a text. The directory that a program
    works in is such a path, for it is what a text means. -/
structure IsProper (p : Path) : Prop where
  normal : p.IsNormal
  unbroken : ∀ name ∈ p.names, '/' ∉ name.toList

section Proper

variable {p q : Path}

theorem isProper_root : root.IsProper :=
  ⟨nofun, nofun⟩

theorem IsProper.of_atOrAbove (hp : p.IsProper) (h : q.AtOrAbove p) : q.IsProper :=
  ⟨fun name hname => hp.normal name (h.subset hname),
    fun name hname => hp.unbroken name (h.subset hname)⟩

theorem pieces_of_not_mem {cs : List Char} (h : '/' ∉ cs) : pieces cs = [cs] := by
  induction cs with
  | nil => rfl
  | cons c rest ih =>
    rw [pieces, ih (List.not_mem_of_not_mem_cons h)]
    exact (List.ne_of_not_mem_cons h).symm

/-- A slash ends a piece. -/
theorem pieces_append {front : List Char} (h : '/' ∉ front) (rest : List Char) :
    pieces (front ++ '/' :: rest) = front :: pieces rest := by
  induction front with
  | nil => rfl
  | cons c front ih =>
    rw [List.cons_append, pieces, ih (List.not_mem_of_not_mem_cons h)]
    exact (List.ne_of_not_mem_cons h).symm

theorem not_mem_of_mem_pieces {cs piece : List Char} (h : piece ∈ pieces cs) : '/' ∉ piece := by
  fun_induction pieces cs generalizing piece with
  | case1 => simp_all
  | case2 rest ih =>
    rcases List.mem_cons.mp h with rfl | hrest
    · exact List.not_mem_nil
    · exact ih hrest
  | case3 c rest hc hnone ih =>
    rw [List.mem_singleton.mp h, List.mem_singleton]
    exact fun heq => hc heq.symm
  | case4 c rest hc first others hsome ih =>
    rw [hsome] at ih
    rcases List.mem_cons.mp h with rfl | hother
    · rw [List.mem_cons, not_or]
      exact ⟨fun heq => hc heq.symm, ih List.mem_cons_self⟩
    · exact ih (List.mem_cons_of_mem _ hother)

/-- Names with slashes between them fall into the names again. -/
theorem pieces_intercalate {first : String} {rest : List String}
    (h : ∀ name ∈ first :: rest, '/' ∉ name.toList) :
    pieces ("/".intercalate (first :: rest)).toList = (first :: rest).map String.toList := by
  induction rest generalizing first with
  | nil => exact pieces_of_not_mem (h first List.mem_cons_self)
  | cons second rest ih =>
    obtain ⟨hfirst, hrest⟩ := List.forall_mem_cons.mp h
    have hslash : ("/" : String).toList = ['/'] := rfl
    rw [String.intercalate_cons_cons, String.toList_append, String.toList_append, hslash,
      List.append_assoc, List.singleton_append, pieces_append hfirst, ih hrest]
    rfl

theorem foldl_follow {steps : List String} (h : IsNormal ⟨steps⟩) (names : List String) :
    steps.foldl follow names = names ++ steps := by
  induction steps generalizing names with
  | nil => exact (List.append_nil names).symm
  | cons step rest ih =>
    obtain ⟨⟨hempty, hstay, hup⟩, hrest⟩ := List.forall_mem_cons.mp h
    have hdown : follow names step = names ++ [step] := by simp [follow, hempty, hstay, hup]
    rw [List.foldl_cons, hdown, ih hrest, List.append_assoc, List.singleton_append]

/-- The text of a path means the path, wherever it is read. -/
theorem resolve_toText (hp : p.IsProper) (base : Path) : base.resolve p.toText = p := by
  obtain ⟨names⟩ := p
  have hslash : ("/" : String).toList = ['/'] := rfl
  unfold resolve toText
  dsimp only
  rw [String.toList_append, hslash, List.singleton_append, List.head?_cons, if_pos rfl, pieces]
  cases names with
  | nil => rfl
  | cons first rest =>
    have hstrings : ((first :: rest).map String.toList).map String.ofList = first :: rest := by
      simp
    rw [pieces_intercalate hp.unbroken, List.map_cons, List.foldl_cons, hstrings]
    exact congrArg Path.mk (foldl_follow hp.normal [])

theorem mem_foldl_follow {steps names : List String} {name : String}
    (h : name ∈ steps.foldl follow names) : name ∈ names ∨ name ∈ steps := by
  induction steps generalizing names with
  | nil => exact .inl h
  | cons step rest ih =>
    rcases ih h with hfollowed | hrest
    · unfold follow at hfollowed
      split at hfollowed
      · exact .inl hfollowed
      · split at hfollowed
        · exact .inl ((List.dropLast_sublist names).mem hfollowed)
        · rcases List.mem_append.mp hfollowed with hold | hnew
          · exact .inl hold
          · exact .inr (List.mem_cons.mpr (.inl (List.mem_singleton.mp hnew)))
    · exact .inr (List.mem_cons_of_mem step hrest)

theorem isProper_resolve (hp : p.IsProper) (text : String) : (p.resolve text).IsProper := by
  refine ⟨isNormal_resolve text hp.normal, fun name hname => ?_⟩
  rcases mem_foldl_follow hname with hbase | hpiece
  · split at hbase
    · cases hbase
    · exact hp.unbroken name hbase
  · obtain ⟨piece, hmem, rfl⟩ := List.mem_map.mp hpiece
    rw [String.toList_ofList]
    exact not_mem_of_mem_pieces hmem

end Proper

end StaticPages.Path
