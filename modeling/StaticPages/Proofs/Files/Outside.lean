import StaticPages.Proofs.Files.Path
import StaticPages.Proofs.Files.System

namespace StaticPages

namespace Path

instance (q p : Path) : Decidable (q.AtOrAbove p) :=
  inferInstanceAs (Decidable (q.names <+: p.names))

/-- Whether a path is neither one of some directories nor in one of them. -/
def IsOutside (directories : List Path) (p : Path) : Prop :=
  ∀ directory ∈ directories, ¬ directory.AtOrAbove p

/-- Whether a path is neither at, nor in, nor above one of some directories. -/
def IsApart (directories : List Path) (p : Path) : Prop :=
  ∀ directory ∈ directories, ¬ directory.AtOrAbove p ∧ ¬ p.AtOrAbove directory

instance (directories : List Path) (p : Path) : Decidable (p.IsOutside directories) :=
  inferInstanceAs (Decidable (∀ directory ∈ directories, _))

instance (directories : List Path) (p : Path) : Decidable (p.IsApart directories) :=
  inferInstanceAs (Decidable (∀ directory ∈ directories, _))

variable {directories : List Path} {p q : Path}

theorem IsApart.isOutside (h : p.IsApart directories) : p.IsOutside directories :=
  fun directory hdirectory => (h directory hdirectory).1

/-- What is above a path outside is outside. -/
theorem IsOutside.of_atOrAbove (h : p.IsOutside directories) (hq : q.AtOrAbove p) :
    q.IsOutside directories :=
  fun directory hdirectory habove => h directory hdirectory (habove.trans hq)

theorem parent_atOrAbove (p : Path) : p.parent.AtOrAbove p :=
  List.dropLast_prefix p.names

theorem mem_upwards_iff_parent : q ∈ p.upwards ↔ q = p ∨ q ∈ p.parent.upwards := by
  induction p using child_induction with
  | root => simp [upwards, parent, root, above]
  | child p name => rw [upwards_child, parent_child, List.mem_cons]

end Path

namespace FileSystem

section Nodes

variable {fs made updated : FileSystem} {p q : Path}

theorem isFile_eq (fs : FileSystem) (p : Path) : fs.isFile p = (fs.text? p).isSome := by
  unfold isFile text?
  cases fs.node? p with
  | none => rfl
  | some node => cases node <;> rfl

theorem node?_addDirectory (fs : FileSystem) (p q : Path) :
    (fs.addDirectory p).node? q =
      if q = p ∧ fs.node? q = none then some .directory else fs.node? q := by
  unfold addDirectory isPresent
  split
  · next hpresent =>
    rw [if_neg]
    rintro ⟨rfl, hnone⟩
    simp [hnone] at hpresent
  · next habsent =>
    have hnone : fs.node? p = none := by simpa using habsent
    have hroot : p ≠ Path.root := by
      rintro rfl
      simp [node?_root] at habsent
    rw [node?_put _ hroot]
    by_cases h : q = p
    · simp [h, hnone]
    · simp [h]

/-- A directory was made if neither its path nor one on the way to it is a file. -/
theorem eq_of_makeDirectory (h : fs.makeDirectory p = .ok made) :
    made = p.upwards.foldr (fun path fs => fs.addDirectory path) fs ∧
      ∀ q ∈ p.upwards, fs.isFile q = false := by
  unfold makeDirectory at h
  split at h
  · cases h
  · next hfile =>
    split at h
    · cases h
    · next hfree =>
      cases h
      refine ⟨rfl, fun q hq => ?_⟩
      rcases Path.mem_upwards_iff_parent.mp hq with rfl | habove
      · exact Bool.eq_false_iff.mpr hfile
      · exact Bool.eq_false_iff.mpr fun hqfile => hfree (List.any_eq_true.mpr ⟨q, habove, hqfile⟩)

/-- Every path on the way to a new directory is a directory then, and nothing else changes. -/
theorem node?_makeDirectory (h : fs.makeDirectory p = .ok made) (q : Path) :
    made.node? q = if q ∈ p.upwards then some .directory else fs.node? q := by
  have hfold (paths : List Path) :
      (paths.foldr (fun path fs => fs.addDirectory path) fs).node? q =
        if q ∈ paths ∧ fs.node? q = none then some .directory else fs.node? q := by
    induction paths with
    | nil => simp
    | cons path rest ih =>
      rw [List.foldr_cons, node?_addDirectory, ih]
      by_cases hpath : q = path <;> by_cases hrest : q ∈ rest <;>
        cases hnone : fs.node? q <;> simp [hpath, hrest]
  obtain ⟨rfl, hfree⟩ := eq_of_makeDirectory h
  rw [hfold]
  by_cases hq : q ∈ p.upwards
  · have hnofile := hfree q hq
    unfold isFile at hnofile
    cases hnode : fs.node? q with
    | none => simp [hq]
    | some node => cases node <;> simp_all
  · simp [hq]

theorem isBlocked_congr {fs other : FileSystem} {p : Path}
    (h : ∀ q, q.AtOrAbove p.parent → other.text? q = fs.text? q) :
    other.isBlocked p = fs.isBlocked p := by
  unfold isBlocked
  rw [Bool.eq_iff_iff, List.any_eq_true, List.any_eq_true]
  refine exists_congr fun q => and_congr_right fun hq => ?_
  rw [isFile_eq, isFile_eq, h q (Path.mem_upwards_iff.mp hq)]

/-- Whether a directory can be made depends on files only. -/
theorem makeDirectory_congr {fs other : FileSystem} {p : Path}
    (h : ∀ q, q.AtOrAbove p → other.text? q = fs.text? q) :
    (∃ e, fs.makeDirectory p = .error e ∧ other.makeDirectory p = .error e) ∨
      ∃ made changed, fs.makeDirectory p = .ok made ∧ other.makeDirectory p = .ok changed := by
  have hblocked : other.isBlocked p = fs.isBlocked p :=
    isBlocked_congr fun q hq => h q (hq.trans p.parent_atOrAbove)
  unfold makeDirectory
  rw [isFile_eq, isFile_eq, h p List.prefix_rfl, hblocked]
  split
  · exact .inl ⟨_, rfl, rfl⟩
  · split
    · exact .inl ⟨_, rfl, rfl⟩
    · exact .inr ⟨_, _, rfl, rfl⟩

theorem node?_update {change : String → String} (h : fs.update p change = .ok updated) (q : Path) :
    updated.node? q =
      if q = p then some (.file (change ((fs.text? p).getD ""))) else fs.node? q := by
  have hroot : p ≠ Path.root := by
    rintro rfl
    rw [update, node?_root] at h
    cases h
  unfold update at h
  split at h
  · cases h
  · next old hold =>
    cases h
    rw [node?_put _ hroot, text?_eq_some_iff.mpr hold, Option.getD_some]
  · next hnone =>
    have habsent : fs.text? p = none := by rw [text?, hnone]
    split at h
    · cases h
      rw [node?_put _ hroot, habsent, Option.getD_none]
    · cases h

end Nodes

/-- Whether two file systems hold the same outside some directories. Further up, there may be
    directories in one that are missing in the other. -/
structure AlikeOutside (directories : List Path) (fs other : FileSystem) : Prop where
  text : ∀ p, p.IsOutside directories → other.text? p = fs.text? p
  node : ∀ p, p.IsApart directories → other.node? p = fs.node? p

section Alike

variable {directories : List Path} {a b c : FileSystem} {p : Path}

theorem AlikeOutside.refl (directories : List Path) (fs : FileSystem) :
    fs.AlikeOutside directories fs :=
  ⟨fun _ _ => rfl, fun _ _ => rfl⟩

theorem AlikeOutside.symm (h : a.AlikeOutside directories b) : b.AlikeOutside directories a :=
  ⟨fun p hp => (h.text p hp).symm, fun p hp => (h.node p hp).symm⟩

theorem AlikeOutside.trans (hab : a.AlikeOutside directories b) (hbc : b.AlikeOutside directories c) :
    a.AlikeOutside directories c :=
  ⟨fun p hp => (hbc.text p hp).trans (hab.text p hp),
    fun p hp => (hbc.node p hp).trans (hab.node p hp)⟩

/-- A directory outside is made in both or in none of them. -/
theorem AlikeOutside.makeDirectory (h : a.AlikeOutside directories b)
    (hp : p.IsOutside directories) :
    (∃ e, a.makeDirectory p = .error e ∧ b.makeDirectory p = .error e) ∨
      ∃ made changed, a.makeDirectory p = .ok made ∧ b.makeDirectory p = .ok changed ∧
        made.AlikeOutside directories changed := by
  refine (makeDirectory_congr fun q hq => h.text q (hp.of_atOrAbove hq)).imp_right ?_
  rintro ⟨made, changed, hmade, hchanged⟩
  refine ⟨made, changed, hmade, hchanged, fun q hq => ?_, fun q hq => ?_⟩
  · rw [text?_makeDirectory hchanged, text?_makeDirectory hmade, h.text q hq]
  · rw [node?_makeDirectory hchanged, node?_makeDirectory hmade, h.node q hq]

/-- A file apart from the directories is updated in both or in none of them, where there is a
    directory for it. -/
theorem AlikeOutside.update (h : a.AlikeOutside directories b) (hp : p.IsApart directories)
    (ha : a.node? p.parent = some .directory) (hb : b.node? p.parent = some .directory)
    (change : String → String) :
    (∃ e, a.update p change = .error e ∧ b.update p change = .error e) ∨
      ∃ updated changed, a.update p change = .ok updated ∧ b.update p change = .ok changed ∧
        updated.AlikeOutside directories changed := by
  have hboth : (∃ e, a.update p change = .error e ∧ b.update p change = .error e) ∨
      ∃ updated changed, a.update p change = .ok updated ∧ b.update p change = .ok changed := by
    unfold FileSystem.update
    rw [h.node p hp, ha, hb, if_pos rfl, if_pos rfl]
    split
    · exact .inl ⟨_, rfl, rfl⟩
    · exact .inr ⟨_, _, rfl, rfl⟩
    · exact .inr ⟨_, _, rfl, rfl⟩
  refine hboth.imp_right ?_
  rintro ⟨updated, changed, hupdated, hchanged⟩
  refine ⟨updated, changed, hupdated, hchanged, fun q hq => ?_, fun q hq => ?_⟩
  · rw [text?_update hchanged, text?_update hupdated, h.text q hq, h.text p hp.isOutside]
  · rw [node?_update hchanged, node?_update hupdated, h.node q hq, h.text p hp.isOutside]

end Alike

end FileSystem

end StaticPages
