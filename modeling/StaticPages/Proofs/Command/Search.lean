import StaticPages.Command.Load
import StaticPages.Proofs.Files.Path
import StaticPages.Proofs.Files.System

namespace StaticPages

namespace Path

/-- A search upwards, step by step: it ends at a directory that has what is sought or that is its
    own parent, and otherwise goes on from the parent. -/
inductive Climbs (has : Path → Prop) : Path → Option Path → Prop
  | found {p : Path} (hhas : has p) : Climbs has p (some p)
  | top {p : Path} (hnot : ¬ has p) (htop : p.parent = p) : Climbs has p none
  | up {p : Path} {found : Option Path} (hnot : ¬ has p) (hup : p.parent ≠ p)
      (hmore : Climbs has p.parent found) : Climbs has p found

variable {has : Path → Prop} {start p q : Path} {found : Option Path}

/-- What a search finds is the nearest directory. -/
theorem Climbs.isNearest (h : Climbs has start (some p)) : IsNearest has start p := by
  generalize hfound : some p = found at h
  induction h with
  | found hhas =>
    cases hfound
    exact isNearest_self hhas
  | top => cases hfound
  | up hnot hup _ ih =>
    obtain ⟨name, hchild⟩ := exists_child hup
    rw [hchild] at hnot ⊢
    exact (isNearest_child_iff hnot).mpr (ih hfound)

/-- A search that finds nothing has passed all the directories up to the root. -/
theorem Climbs.not_has (h : Climbs has start none) (hq : q.AtOrAbove start) : ¬ has q := by
  generalize hfound : none = found at h
  induction h with
  | found => cases hfound
  | top hnot htop =>
    rw [parent_eq_self_iff.mp htop] at hq hnot
    rwa [atOrAbove_root_iff.mp hq]
  | up hnot hup _ ih =>
    obtain ⟨name, hchild⟩ := exists_child hup
    rw [hchild] at hnot hq
    rcases atOrAbove_child_iff.mp hq with rfl | habove
    · exact hnot
    · exact ih habove hfound

theorem Climbs.eq_some_iff (h : Climbs has start found) :
    found = some p ↔ IsNearest has start p := by
  constructor
  · rintro rfl
    exact h.isNearest
  · intro hp
    cases found with
    | none => exact absurd hp.holds (h.not_has hp.above)
    | some q => rw [h.isNearest.eq hp]

theorem Climbs.eq_none_iff (h : Climbs has start found) :
    found = none ↔ ∀ q, q.AtOrAbove start → ¬ has q := by
  constructor
  · rintro rfl q hq
    exact h.not_has hq
  · intro hnone
    cases found with
    | none => rfl
    | some p => exact absurd h.isNearest.holds (hnone p h.isNearest.above)

/-- The nearest directory is the one below which no other has what is sought. -/
theorem isNearest_iff :
    IsNearest has start p ↔ p.AtOrAbove start ∧ has p ∧
      ∀ q, q.AtOrAbove start → p.AtOrAbove q → q ≠ p → ¬ has q := by
  constructor
  · rintro ⟨habove, hp, hnearest⟩
    exact ⟨habove, hp, fun q hq hpq hne hhas => hne ((hnearest q hq hhas).antisymm hpq)⟩
  · rintro ⟨habove, hp, hnone⟩
    refine ⟨habove, hp, fun q hq hhas => ?_⟩
    -- Both are above the start, so one of the two is above the other.
    rcases List.prefix_or_prefix_of_prefix habove hq with hpq | hqp
    · by_cases heq : q = p
      · exact heq ▸ List.prefix_rfl
      · exact absurd hhas (hnone q hq hpq heq)
    · exact hqp

end Path

namespace Command

/-- The search as a loop: it looks in a directory and, unless this is the root, goes on from the
    parent. -/
theorem findProject_eq {m : Type → Type} [Monad m] [FileAccess m] (start : Path) :
    (findProject start : m (Option Path)) = (do
      if ← FileAccess.isPresent (settingsFile start) then pure (some start)
      else if start.parent = start then pure none
      else findProject start.parent) := by
  induction start using Path.child_induction with
  | root => rfl
  | child p name =>
    rw [Path.parent_child, if_neg (Path.child_ne p name), findProject, Path.upwards_child]
    rfl

section Files

variable {files : FileSystem} {start : Path}

/-- One step of the search, which only looks. -/
theorem findProject_apply (files : FileSystem) (start : Path) :
    (findProject start : StateM FileSystem (Option Path)) files =
      if files.isPresent (settingsFile start) = true then (some start, files)
      else if start.parent = start then (none, files)
      else (findProject start.parent : StateM FileSystem (Option Path)) files := by
  have hlook : (FileAccess.isPresent (settingsFile start) : StateM FileSystem Bool) files =
      (files.isPresent (settingsFile start), files) := rfl
  rw [findProject_eq, bind_apply, hlook]
  dsimp only
  split
  · rfl
  · split <;> rfl

/-- The search ends wherever it starts, since every step leaves one name less. -/
theorem exists_climbs (files : FileSystem) (start : Path) :
    ∃ found, (findProject start : StateM FileSystem (Option Path)) files = (found, files) ∧
      Path.Climbs (fun p => files.isPresent (settingsFile p) = true) start found := by
  induction start using Path.child_induction with
  | root =>
    rw [findProject_apply]
    by_cases hroot : files.isPresent (settingsFile Path.root) = true
    · exact ⟨_, if_pos hroot, .found hroot⟩
    · exact ⟨none, by rw [if_neg hroot]; rfl, .top hroot rfl⟩
  | child p name ih =>
    obtain ⟨found, hfound, hclimbs⟩ := ih
    have hup : (p.child name).parent ≠ p.child name := by
      rw [Path.parent_child]
      exact Path.child_ne p name
    rw [findProject_apply]
    by_cases hchild : files.isPresent (settingsFile (p.child name)) = true
    · exact ⟨_, if_pos hchild, .found hchild⟩
    · refine ⟨found, ?_, .up hchild hup (by rwa [Path.parent_child])⟩
      rw [if_neg hchild, if_neg hup, Path.parent_child, hfound]

end Files

/-- The search for a project from what a text means in a directory, whether there is anything at
    that place or not. It ends, changes nothing, and finds the settings file of a directory at or
    above the place if that file is there and no directory between the two has one. It finds none
    exactly if no directory up to the root has one. -/
theorem search_spec (files : FileSystem) (directory : Path) (text : String) :
    ∃ found,
      (findProject (directory.resolve text) : StateM FileSystem (Option Path)) files =
        (found, files) ∧
      Path.Climbs (fun p => files.isPresent (settingsFile p) = true) (directory.resolve text)
        found ∧
      (∀ file, found.map settingsFile = some file ↔ ∃ p, file = settingsFile p ∧
        p.AtOrAbove (directory.resolve text) ∧ files.isPresent file = true ∧
        ∀ q, q.AtOrAbove (directory.resolve text) → p.AtOrAbove q → q ≠ p →
          files.isPresent (settingsFile q) = false) ∧
      (found.map settingsFile = none ↔ ∀ q, q.AtOrAbove (directory.resolve text) →
        files.isPresent (settingsFile q) = false) := by
  obtain ⟨found, hfound, hclimbs⟩ := exists_climbs files (directory.resolve text)
  refine ⟨found, hfound, hclimbs, fun file => ?_, ?_⟩
  · simp only [Option.map_eq_some_iff, hclimbs.eq_some_iff, Path.isNearest_iff,
      Bool.not_eq_true]
    constructor
    · rintro ⟨p, ⟨habove, hpresent, hbetween⟩, rfl⟩
      exact ⟨p, rfl, habove, hpresent, hbetween⟩
    · rintro ⟨p, rfl, habove, hpresent, hbetween⟩
      exact ⟨p, ⟨habove, hpresent, hbetween⟩, rfl⟩
  · rw [Option.map_eq_none_iff, hclimbs.eq_none_iff]
    simp only [Bool.not_eq_true]

end Command

end StaticPages
