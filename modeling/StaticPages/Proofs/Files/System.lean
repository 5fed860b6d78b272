import StaticPages.Files.System
import StaticPages.Proofs.Table

namespace StaticPages

section State

variable {σ α β : Type}

/-- What one computation after another does to a state. -/
theorem bind_apply (x : StateM σ α) (f : α → StateM σ β) (s : σ) :
    (x >>= f) s = f (x s).1 (x s).2 :=
  rfl

theorem pure_apply (a : α) (s : σ) : (pure a : StateM σ α) s = (a, s) :=
  rfl

end State

namespace FileSystem

/-- The text of the file at a path, if a file is there. -/
def text? (fs : FileSystem) (p : Path) : Option String :=
  match fs.node? p with
  | some (.file text) => some text
  | _ => none

theorem text?_eq_some_iff {fs : FileSystem} {p : Path} {text : String} :
    fs.text? p = some text ↔ fs.node? p = some (.file text) := by
  unfold text?
  split <;> simp_all

theorem read_eq_ok_iff {fs : FileSystem} {p : Path} {text : String} :
    fs.read p = .ok text ↔ fs.text? p = some text := by
  unfold read text?
  split <;> simp_all

theorem isPresent_of_read {fs : FileSystem} {p : Path} {text : String}
    (h : fs.read p = .ok text) : fs.isPresent p = true := by
  rw [read_eq_ok_iff, text?_eq_some_iff] at h
  rw [isPresent, h]
  rfl

theorem putNode_eq_put (nodes : List (Path × Node)) (p : Path) (node : Node) :
    putNode nodes p node = Table.put nodes p node := by
  induction nodes with
  | nil => rfl
  | cons head rest ih => simp only [putNode, Table.put, ih]

theorem node?_put {fs : FileSystem} {p other : Path} (node : Node) (hroot : p ≠ Path.root) :
    (fs.put p node).node? other = if other = p then some node else fs.node? other := by
  unfold node? put
  rw [putNode_eq_put, Table.lookup_put]
  by_cases h : other = p
  · subst h
    simp [hroot]
  · simp [h]

theorem node?_root (fs : FileSystem) : fs.node? Path.root = some .directory := by
  simp [node?]

/-- Putting a file at a path changes no other file. -/
theorem text?_put_file {fs : FileSystem} {p other : Path} (text : String)
    (hroot : p ≠ Path.root) :
    (fs.put p (.file text)).text? other = if other = p then some text else fs.text? other := by
  unfold text?
  rw [node?_put _ hroot]
  by_cases h : other = p <;> simp [h]

theorem text?_addDirectory (fs : FileSystem) (p other : Path) :
    (fs.addDirectory p).text? other = fs.text? other := by
  unfold addDirectory isPresent
  split
  · rfl
  · next habsent =>
    have hroot : p ≠ Path.root := by
      rintro rfl
      simp [node?_root] at habsent
    have hnone : fs.node? p = none := by simpa using habsent
    unfold text?
    rw [node?_put _ hroot]
    by_cases h : other = p
    · simp [h, hnone]
    · simp [h]

/-- Making directories changes no file. -/
theorem text?_makeDirectory {fs made : FileSystem} {p : Path}
    (h : fs.makeDirectory p = .ok made) (other : Path) : made.text? other = fs.text? other := by
  have hfold (paths : List Path) :
      (paths.foldr (fun path fs => fs.addDirectory path) fs).text? other = fs.text? other := by
    induction paths with
    | nil => rfl
    | cons path rest ih => rw [List.foldr_cons, text?_addDirectory, ih]
  unfold makeDirectory at h
  split at h
  · cases h
  · split at h
    · cases h
    · cases h
      exact hfold p.upwards

/-- An update that succeeds has put a text at its path and changed no other file. -/
theorem text?_update {fs updated : FileSystem} {p : Path} {change : String → String}
    (h : fs.update p change = .ok updated) (other : Path) :
    updated.text? other =
      if other = p then some (change ((fs.text? p).getD "")) else fs.text? other := by
  have hroot : p ≠ Path.root := by
    rintro rfl
    rw [update, node?_root] at h
    cases h
  unfold update at h
  split at h
  · cases h
  · next old hold =>
    cases h
    rw [text?_put_file _ hroot, text?_eq_some_iff.mpr hold, Option.getD_some]
  · next hnone =>
    split at h
    · cases h
      have habsent : fs.text? p = none := by rw [text?, hnone]
      rw [text?_put_file _ hroot, habsent, Option.getD_none]
    · cases h

theorem text?_write {fs written : FileSystem} {p : Path} {text : String}
    (h : fs.write p text = .ok written) (other : Path) :
    written.text? other = if other = p then some text else fs.text? other :=
  text?_update h other

/-- A text whose writing was not refused is in its file. -/
theorem text?_commit_write {fs : FileSystem} {p : Path} {text : String}
    (h : (commit (fun fs => fs.write p text) fs).1 = .ok ()) :
    (commit (fun fs => fs.write p text) fs).2.text? p = some text := by
  unfold commit at h ⊢
  split at h
  · next written hwritten => rw [text?_write hwritten, if_pos rfl]
  · cases h

/-- Whether a text cannot be written to a path: the directory for it cannot be made, or the
    path is none for a file. -/
def RefusesText (fs : FileSystem) (p : Path) (text : String) (e : FileError) : Prop :=
  fs.makeDirectory p.parent = .error e ∨
    ∃ made, fs.makeDirectory p.parent = .ok made ∧ made.write p text = .error e

/-- Whether two file systems hold the same files, but for those at some paths. -/
def SameBut (targets : List Path) (before after : FileSystem) : Prop :=
  ∀ p ∉ targets, after.text? p = before.text? p

theorem SameBut.refl (targets : List Path) (fs : FileSystem) : fs.SameBut targets fs :=
  fun _ _ => rfl

theorem SameBut.trans {targets : List Path} {a b c : FileSystem} (hab : a.SameBut targets b)
    (hbc : b.SameBut targets c) : a.SameBut targets c :=
  fun p hp => (hbc p hp).trans (hab p hp)

/-- A change that is committed leaves all other files as they are, whether it is made or
    refused. -/
theorem sameBut_commit {targets : List Path}
    {change : FileSystem → Except FileError FileSystem} {fs : FileSystem}
    (h : ∀ changed, change fs = .ok changed → fs.SameBut targets changed) :
    fs.SameBut targets (commit change fs).2 := by
  unfold commit
  split
  · next changed hchange => exact h changed hchange
  · exact .refl targets fs

theorem sameBut_makeDirectory (targets : List Path) (fs : FileSystem) (p : Path) :
    fs.SameBut targets (commit (fun fs => fs.makeDirectory p) fs).2 :=
  sameBut_commit fun _ h other _ => text?_makeDirectory h other

theorem sameBut_update {targets : List Path} {p : Path} (hp : p ∈ targets) (fs : FileSystem)
    (change : String → String) :
    fs.SameBut targets (commit (fun fs => fs.update p change) fs).2 := by
  refine sameBut_commit fun updated h other hother => ?_
  have hne : other ≠ p := fun heq => hother (heq ▸ hp)
  rw [text?_update h, if_neg hne]

end FileSystem

end StaticPages
