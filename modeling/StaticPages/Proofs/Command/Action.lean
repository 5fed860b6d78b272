import StaticPages.Command.Machine
import StaticPages.Proofs.Log.Logger

namespace StaticPages.Command

variable {α β : Type}

section Run

variable {σ : Type}

/-- An action goes on where the one before it has succeeded, and stops at a fault. -/
theorem run_bind (x : Action (StateM σ) α) (f : α → Action (StateM σ) β)
    (machine : σ) :
    (x >>= f).run machine =
      match x.run machine with
      | (.ok a, after) => (f a).run after
      | (.error fault, after) => (.error fault, after) := by
  change (ExceptT.bindCont f (x.run machine).1) (x.run machine).2 = _
  cases x.run machine with
  | mk result after => cases result <;> rfl

theorem run_bind_eq_ok_iff {x : Action (StateM σ) α}
    {f : α → Action (StateM σ) β} {machine after : σ} {b : β} :
    (x >>= f).run machine = (.ok b, after) ↔
      ∃ a between, x.run machine = (.ok a, between) ∧ (f a).run between = (.ok b, after) := by
  rw [run_bind]
  split
  · next a between hx =>
    constructor
    · exact fun h => ⟨a, between, hx, h⟩
    · rintro ⟨a', between', hx', h⟩
      cases hx.symm.trans hx'
      exact h
  · next fault between hx =>
    constructor
    · intro h
      cases h
    · rintro ⟨a, between', hx', -⟩
      cases hx.symm.trans hx'

theorem run_bind_eq_error_iff {x : Action (StateM σ) α}
    {f : α → Action (StateM σ) β} {machine after : σ} {fault : Fault} :
    (x >>= f).run machine = (.error fault, after) ↔
      x.run machine = (.error fault, after) ∨
        ∃ a between, x.run machine = (.ok a, between) ∧
          (f a).run between = (.error fault, after) := by
  rw [run_bind]
  split
  · next a between hx =>
    constructor
    · exact fun h => .inr ⟨a, between, hx, h⟩
    · rintro (hstopped | ⟨a', between', hx', h⟩)
      · cases hx.symm.trans hstopped
      · cases hx.symm.trans hx'
        exact h
  · next fault' between hx =>
    constructor
    · exact fun h => .inl (hx.trans (by cases h; rfl))
    · rintro (hstopped | ⟨a, between', hx', -⟩)
      · cases hx.symm.trans hstopped
        rfl
      · cases hx.symm.trans hx'

theorem run_attempt (operation : StateM σ (Except FileError α)) (machine : σ) :
    (attempt operation).run machine =
      (match (operation machine).1 with
        | .ok a => .ok a
        | .error e => .error (.file e),
      (operation machine).2) := by
  unfold attempt
  rw [ExceptT.run_mk, bind_apply]
  cases (operation machine).1 <;> rfl

theorem run_attempt_eq_ok_iff {operation : StateM σ (Except FileError α)}
    {machine after : σ} {a : α} :
    (attempt operation).run machine = (.ok a, after) ↔ operation machine = (.ok a, after) := by
  rw [run_attempt]
  cases operation machine with
  | mk result left =>
    cases result with
    | ok value =>
      constructor <;> intro h <;> cases h <;> rfl
    | error e =>
      constructor <;> intro h <;> cases h

theorem run_lift (x : StateM σ α) (machine : σ) :
    (ExceptT.lift x : Action (StateM σ) α).run machine =
      (.ok (x machine).1, (x machine).2) :=
  rfl

theorem run_isPresent (p : Path) (machine : Machine) :
    (isPresent p : Action (StateM Machine) Bool).run machine =
      (.ok (machine.files.isPresent p), machine) :=
  rfl

theorem run_readText (p : Path) (machine : Machine) :
    (readText p : Action (StateM Machine) String).run machine =
      (match machine.files.read p with
        | .ok text => .ok text
        | .error e => .error (.file e),
      machine) := by
  have hread : (FileAccess.read p : StateM Machine _) machine = (machine.files.read p, machine) :=
    rfl
  rw [readText, run_attempt, hread]
  cases machine.files.read p <;> rfl

theorem run_readText_eq_ok_iff {p : Path} {text : String} {machine after : Machine} :
    (readText p : Action (StateM Machine) String).run machine = (.ok text, after) ↔
      after = machine ∧ machine.files.read p = .ok text := by
  rw [readText, run_attempt_eq_ok_iff]
  constructor
  · intro h
    exact ⟨(congrArg Prod.snd h).symm, congrArg Prod.fst h⟩
  · rintro ⟨rfl, h⟩
    exact Prod.ext h rfl

theorem run_writeText (p : Path) (text : String) (machine : Machine) :
    (writeText p text : Action (StateM Machine) Unit).run machine =
      match machine.files.makeDirectory p.parent with
      | .error e => (.error (.file e), machine)
      | .ok made =>
        match made.write p text with
        | .error e => (.error (.file e), { machine with files := made })
        | .ok written => (.ok (), { machine with files := written }) := by
  have hmake : (FileAccess.makeDirectory p.parent : StateM Machine _) machine =
      let made := FileSystem.commit (fun fs => fs.makeDirectory p.parent) machine.files
      (made.1, { machine with files := made.2 }) := rfl
  have hput (between : Machine) : (FileAccess.write p text : StateM Machine _) between =
      let written := FileSystem.commit (fun fs => fs.write p text) between.files
      (written.1, { between with files := written.2 }) := rfl
  rw [writeText, run_bind, run_attempt, hmake]
  cases hmade : machine.files.makeDirectory p.parent with
  | error e => simp only [FileSystem.commit, hmade]
  | ok made =>
    simp only [FileSystem.commit, hmade]
    rw [run_attempt, hput]
    cases hwritten : made.write p text <;> simp only [FileSystem.commit, hwritten]

theorem eq_ok_of_toOption {ε : Type} {x : Except ε α} {a : α} (h : x.toOption = some a) :
    x = .ok a := by
  cases x with
  | error e => cases h
  | ok b =>
    cases h
    rfl

theorem run_of_toOption {x : Action (StateM Machine) α} {machine : Machine} {a : α}
    (h : (x.run machine).1.toOption = some a) :
    x.run machine = (.ok a, (x.run machine).2) :=
  Prod.ext (eq_ok_of_toOption h) rfl

end Run

section Within

/-- Whether an action takes every machine to one that is in a relation with it, however
    the action ends. -/
def Within (R : Machine → Machine → Prop) (x : Action (StateM Machine) α) : Prop :=
  ∀ machine, R machine (x.run machine).2

variable {R : Machine → Machine → Prop}

theorem within_lift {x : StateM Machine α} (h : ∀ machine, R machine (x machine).2) :
    Within R (ExceptT.lift x : Action (StateM Machine) α) :=
  h

theorem within_attempt {operation : StateM Machine (Except FileError α)}
    (h : ∀ machine, R machine (operation machine).2) : Within R (attempt operation) := by
  intro machine
  rw [run_attempt]
  exact h machine

theorem within_pure [Std.Refl R] (a : α) : Within R (pure a : Action (StateM Machine) α) :=
  fun machine => Std.Refl.refl machine

theorem within_stop [Std.Refl R] (fault : Fault) :
    Within R (stop fault : Action (StateM Machine) α) :=
  fun machine => Std.Refl.refl machine

theorem within_bind [Trans R R R] {x : Action (StateM Machine) α}
    {f : α → Action (StateM Machine) β} (hx : Within R x) (hf : ∀ a, Within R (f a)) :
    Within R (x >>= f) := by
  intro machine
  have hfirst := hx machine
  rw [run_bind]
  split
  · next a after hrun =>
    rw [hrun] at hfirst
    exact Trans.trans hfirst (hf a after)
  · next fault after hrun =>
    rw [hrun] at hfirst
    exact hfirst

theorem within_forM [Std.Refl R] [Trans R R R] {f : α → Action (StateM Machine) Unit}
    (h : ∀ a, Within R (f a)) (xs : List α) : Within R (xs.forM f) := by
  induction xs with
  | nil => exact within_pure ()
  | cons x rest ih => exact within_bind (h x) fun _ => ih

end Within

namespace Machine

/-- The files that a run on a machine may log to. -/
def logFiles (m : Machine) : List Path :=
  m.logger.logFiles m.home m.stamp

/-- What a run keeps of a machine that writes files at some paths only: where it logs to,
    and all files elsewhere that are no logs. -/
structure Keeps (targets : List Path) (before after : Machine) : Prop where
  logFiles : after.logFiles = before.logFiles
  files : before.files.SameBut (targets ++ before.logFiles) after.files

instance (targets : List Path) : Std.Refl (Keeps targets) :=
  ⟨fun machine => ⟨rfl, .refl _ machine.files⟩⟩

instance (targets : List Path) : Trans (Keeps targets) (Keeps targets) (Keeps targets) where
  trans hab hbc := ⟨hbc.logFiles.trans hab.logFiles, hab.files.trans (hab.logFiles ▸ hbc.files)⟩

variable {targets : List Path}

theorem Keeps.of_files {before : Machine} {files : FileSystem}
    (h : before.files.SameBut (targets ++ before.logFiles) files) :
    Keeps targets before { before with files } :=
  ⟨rfl, h⟩

theorem keeps_log (e : Log.Event) (machine : Machine) :
    Keeps targets machine (log e machine).2 := by
  obtain ⟨hlogger, hfiles⟩ :=
    machine.logger.record_sameBut machine.home machine.stamp e machine.files
  exact ⟨hlogger.logFiles_eq machine.home machine.stamp,
    fun p hp => hfiles p fun hlog => hp (List.mem_append_right targets hlog)⟩

end Machine

section Keeps

variable {targets : List Path}

open Machine (Keeps)

/-- A file that an action does not write to, and that is no log, stays as it is. -/
theorem text?_of_within {x : Action (StateM Machine) α} (hx : Within (Keeps targets) x)
    {machine after : Machine} {result : Except Fault α} (hrun : x.run machine = (result, after))
    {p : Path} (hp : p ∉ targets) (hlog : p ∉ machine.logFiles) :
    after.files.text? p = machine.files.text? p := by
  have hkeeps := (hx machine).files p (by simp [hp, hlog])
  rw [hrun] at hkeeps
  exact hkeeps

theorem keeps_record (e : Log.Event) :
    Within (Keeps targets) (record e : Action (StateM Machine) Unit) :=
  within_lift fun machine => Machine.keeps_log e machine

theorem keeps_print (text : String) :
    Within (Keeps targets) (print text : Action (StateM Machine) Unit) :=
  within_lift fun machine => ⟨rfl, .refl _ machine.files⟩

theorem keeps_readText (p : Path) :
    Within (Keeps targets) (readText p : Action (StateM Machine) String) :=
  within_attempt fun machine => ⟨rfl, .refl _ machine.files⟩

theorem keeps_writeText {p : Path} (hp : p ∈ targets) (text : String) :
    Within (Keeps targets) (writeText p text : Action (StateM Machine) Unit) := by
  refine within_bind (within_attempt fun machine => ?_) fun _ => within_attempt fun machine => ?_
  · exact .of_files (FileSystem.sameBut_makeDirectory _ machine.files p.parent)
  · exact .of_files (FileSystem.sameBut_update (List.mem_append_left _ hp) machine.files _)

/-- A text that could not be written has changed no file. -/
theorem refused_of_writeText {p : Path} {text : String} {machine after : Machine} {fault : Fault}
    (h : (writeText p text : Action (StateM Machine) Unit).run machine = (.error fault, after)) :
    ∃ e, fault = .file e ∧ machine.files.RefusesText p text e ∧ Keeps [] machine after := by
  rw [run_writeText] at h
  cases hmade : machine.files.makeDirectory p.parent with
  | error e =>
    rw [hmade] at h
    cases h
    exact ⟨e, rfl, .inl hmade, Std.Refl.refl machine⟩
  | ok made =>
    rw [hmade] at h
    dsimp only at h
    cases hwritten : made.write p text with
    | ok written =>
      rw [hwritten] at h
      cases h
    | error e =>
      rw [hwritten] at h
      cases h
      refine ⟨e, rfl, .inr ⟨made, hmade, hwritten⟩, .of_files ?_⟩
      exact fun other _ => FileSystem.text?_makeDirectory hmade other

/-- A text that was written is in its file. -/
theorem text?_of_writeText {p : Path} {text : String} {machine after : Machine}
    (h : (writeText p text : Action (StateM Machine) Unit).run machine = (.ok (), after)) :
    after.files.text? p = some text := by
  obtain ⟨_, between, -, hwrite⟩ := run_bind_eq_ok_iff.mp h
  rw [run_attempt_eq_ok_iff] at hwrite
  have hdone := congrArg Prod.fst hwrite
  have hafter : ((FileAccess.write p text : StateM Machine _) between).2 = after :=
    congrArg Prod.snd hwrite
  subst hafter
  exact FileSystem.text?_commit_write hdone

end Keeps

/-- Whether two machines have printed the same. -/
structure Machine.ShowsSame (before after : Machine) : Prop where
  stdout : after.stdout = before.stdout
  stderr : after.stderr = before.stderr

instance : Std.Refl Machine.ShowsSame :=
  ⟨fun _ => ⟨rfl, rfl⟩⟩

instance : Trans Machine.ShowsSame Machine.ShowsSame Machine.ShowsSame where
  trans hab hbc := ⟨hbc.stdout.trans hab.stdout, hbc.stderr.trans hab.stderr⟩

/-- Whether a relation between machines allows what a command does to render: it reads files,
    writes files at some paths, and logs. -/
structure Permits (R : Machine → Machine → Prop) (targets : List Path) : Prop where
  readText (p : Path) : Within R (readText p : Action (StateM Machine) String)
  writeText {p : Path} (hp : p ∈ targets) (text : String) :
    Within R (writeText p text : Action (StateM Machine) Unit)
  record (e : Log.Event) : Within R (record e : Action (StateM Machine) Unit)

theorem permits_keeps (targets : List Path) : Permits (Machine.Keeps targets) targets :=
  ⟨keeps_readText, keeps_writeText, keeps_record⟩

theorem permits_showsSame (targets : List Path) : Permits Machine.ShowsSame targets where
  readText _ := within_attempt fun _ => ⟨rfl, rfl⟩
  writeText _ _ := within_bind (within_attempt fun _ => ⟨rfl, rfl⟩) fun _ =>
    within_attempt fun _ => ⟨rfl, rfl⟩
  record _ := within_lift fun _ => ⟨rfl, rfl⟩

/-- A machine that holds some nodes and logs to the user's directory. -/
def sampleMachine (nodes : List (String × Node)) : Machine where
  home := ⟨["home"]⟩
  files := ⟨nodes.map fun (name, node) => (Path.root.resolve name, node)⟩
  logger := { session := "session" }
  stamp := ⟨"entry", 0⟩

end StaticPages.Command
