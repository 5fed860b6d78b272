import StaticPages.Log.Logger
import StaticPages.Proofs.Files.System

namespace StaticPages.Log.Logger

/-- The directories that a logger logs to on a machine with some files. -/
def chosen (l : Logger) (home : Path) (fs : FileSystem) : List Path :=
  (if l.toGlobal then [l.globalLogs.getD (logsDirectory home)] else []) ++
    match l.project with
    | none => []
    | some project =>
      if l.toProject && fs.isPresent (settingsDirectory project) then [logsDirectory project] else []

/-- Choosing the destinations of an entry changes nothing. -/
theorem destinations_eq (l : Logger) (home : Path) (fs : FileSystem) :
    (l.destinations home : StateM FileSystem (List Path)) fs = (l.chosen home fs, fs) := by
  unfold destinations chosen
  cases l.project with
  | none => simp only [List.append_nil, pure_apply]
  | some project =>
    have hread : (FileAccess.isPresent (settingsDirectory project) : StateM FileSystem Bool) fs =
        (fs.isPresent (settingsDirectory project), fs) := rfl
    simp only [bind_apply, hread]
    cases l.toProject && fs.isPresent (settingsDirectory project) <;> simp [pure_apply]

/-- The files that a logger may write to at an instant, wherever projects have settings. -/
def logFiles (l : Logger) (home : Path) (stamp : Stamp) : List Path :=
  if l.disabled || l.level == .off then []
  else
    ((if l.toGlobal then [l.globalLogs.getD (logsDirectory home)] else []) ++
      (if l.toProject then l.project.toList.map logsDirectory else [])).map fun directory =>
        directory.child (Calendar.dateText stamp.instant ++ ".jsonl")

/-- A logger that accepts some entry writes to its log files only. -/
theorem mem_logFiles_of_chosen {l : Logger} {level : Level} (h : l.accepts level = true)
    {home directory : Path} {fs : FileSystem} (hchosen : directory ∈ l.chosen home fs)
    (stamp : Stamp) :
    directory.child (Calendar.dateText stamp.instant ++ ".jsonl") ∈ l.logFiles home stamp := by
  have hopen : (l.disabled || l.level == .off) = false := by
    simp only [accepts, Bool.and_eq_true, Bool.not_eq_true', bne_iff_ne] at h
    simp [h.1.1, h.1.2]
  rw [logFiles, hopen, if_neg Bool.false_ne_true]
  refine List.mem_map_of_mem (List.mem_append.mpr ?_)
  rcases List.mem_append.mp hchosen with hglobal | hproject
  · exact .inl hglobal
  · right
    cases hsome : l.project with
    | none => simp [hsome] at hproject
    | some project =>
      simp only [hsome] at hproject
      split at hproject
      · next hboth =>
        rw [(Bool.and_eq_true_iff.mp hboth).1, if_pos rfl]
        exact hproject
      · cases hproject

/-- Two loggers that differ in nothing but the number of failed writes. -/
def SameLogger (l other : Logger) : Prop :=
  ∃ failedWrites, other = { l with failedWrites }

theorem SameLogger.refl (l : Logger) : l.SameLogger l :=
  ⟨l.failedWrites, rfl⟩

theorem SameLogger.trans {a b c : Logger} (hab : a.SameLogger b) (hbc : b.SameLogger c) :
    a.SameLogger c := by
  obtain ⟨m, rfl⟩ := hab
  obtain ⟨n, rfl⟩ := hbc
  exact ⟨n, rfl⟩

theorem SameLogger.logFiles_eq {l other : Logger} (h : l.SameLogger other) (home : Path)
    (stamp : Stamp) : other.logFiles home stamp = l.logFiles home stamp := by
  obtain ⟨n, rfl⟩ := h
  rfl

variable {targets : List Path}

theorem append_sameBut {directory : Path} {fileName : String}
    (h : directory.child fileName ∈ targets) (line : String) (fs : FileSystem) :
    fs.SameBut targets
      ((append directory fileName line : StateM FileSystem (Except FileError Unit)) fs).2 := by
  have hmade := FileSystem.sameBut_makeDirectory targets fs directory
  unfold append
  rw [bind_apply]
  cases ((FileAccess.makeDirectory directory : StateM FileSystem (Except FileError Unit)) fs).1 with
  | error _ => exact hmade
  | ok _ => exact hmade.trans (FileSystem.sameBut_update h _ _)

theorem appendAll_sameBut (l : Logger) {fileName : String} {directories : List Path}
    (h : ∀ directory ∈ directories, directory.child fileName ∈ targets) (line : String)
    (fs : FileSystem) :
    l.SameLogger ((l.appendAll fileName line directories : StateM FileSystem Logger) fs).1 ∧
      fs.SameBut targets
        ((l.appendAll fileName line directories : StateM FileSystem Logger) fs).2 := by
  induction directories generalizing l fs with
  | nil => exact ⟨.refl l, .refl targets fs⟩
  | cons directory rest ih =>
    have hfirst := append_sameBut (h directory List.mem_cons_self) line fs
    have hrest : ∀ directory ∈ rest, directory.child fileName ∈ targets :=
      fun other hother => h other (List.mem_cons_of_mem directory hother)
    rw [appendAll, bind_apply]
    cases ((append directory fileName line : StateM FileSystem (Except FileError Unit)) fs).1 with
    | ok _ =>
      obtain ⟨hlogger, hfiles⟩ := ih l hrest _
      exact ⟨hlogger, hfirst.trans hfiles⟩
    | error _ =>
      obtain ⟨hlogger, hfiles⟩ := ih l.countFailure hrest _
      exact ⟨SameLogger.trans ⟨_, rfl⟩ hlogger, hfirst.trans hfiles⟩

section Record

variable (l : Logger) (home : Path) (stamp : Stamp) (e : Event) (fs : FileSystem)

/-- An entry of an accepted level is appended in each chosen directory. -/
theorem record_of_accepts (h : l.accepts e.level = true) :
    (l.record home stamp e : StateM FileSystem Logger) fs =
      (l.appendAll (Calendar.dateText stamp.instant ++ ".jsonl") (l.line stamp e)
        (l.chosen home fs) : StateM FileSystem Logger) fs := by
  simp only [record, h, if_true, bind_apply, destinations_eq]

/-- Any other entry is dropped. -/
theorem record_of_not_accepts (h : ¬ l.accepts e.level = true) :
    (l.record home stamp e : StateM FileSystem Logger) fs = (l, fs) := by
  simp only [record, h]
  rfl

/-- Logging changes log files only, and of the logger only the number of failed writes. -/
theorem record_sameBut :
    l.SameLogger ((l.record home stamp e : StateM FileSystem Logger) fs).1 ∧
      fs.SameBut (l.logFiles home stamp)
        ((l.record home stamp e : StateM FileSystem Logger) fs).2 := by
  by_cases haccepts : l.accepts e.level = true
  · rw [record_of_accepts l home stamp e fs haccepts]
    exact appendAll_sameBut l (fun directory hdirectory =>
      mem_logFiles_of_chosen haccepts hdirectory stamp) _ fs
  · rw [record_of_not_accepts l home stamp e fs haccepts]
    exact ⟨.refl l, .refl _ fs⟩

end Record

end StaticPages.Log.Logger
