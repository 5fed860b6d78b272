import StaticPages.Proofs.Command.Action
import StaticPages.Proofs.Log.Lines

namespace StaticPages.Command

open Log Log.Logger FileSystem

theorem logsDirectory_inj {p q : Path} : logsDirectory p = logsDirectory q ↔ p = q := by
  simp [logsDirectory, settingsDirectory]

/-- The logger that a run is given logs twice where its project, or else its directory, has
    its logs where the user has. Without another place for the user's logs, that is where
    it is the user's home. -/
theorem logsTwice_prepareLog (env : Environment) (loaded : Loaded) (machine : Machine) :
    let ready := ((prepareLog env loaded false : StateM Machine Unit) machine).2
    let root := loaded.project.getD env.directory
    ready.logger.LogsTwice ready.home ready.files ↔
      loaded.settings.logging.toGlobal.getD true = true ∧
        loaded.settings.logging.toProject.getD true = true ∧
        machine.files.isPresent (settingsDirectory root) = true ∧
        (env.globalLogs <|> machine.logger.globalLogs).elim (machine.home = root)
          (· = logsDirectory root) := by
  intro ready root
  have hglobal : (env.globalLogs <|> machine.logger.globalLogs).getD (logsDirectory machine.home) =
      logsDirectory root ↔ (env.globalLogs <|> machine.logger.globalLogs).elim (machine.home = root)
        (· = logsDirectory root) := by
    cases env.globalLogs <|> machine.logger.globalLogs with
    | none => exact logsDirectory_inj
    | some directory => rfl
  rw [← hglobal]
  let options : Options :=
    { level := some (loaded.settings.logging.level.getD .info)
      toGlobal := some (loaded.settings.logging.toGlobal.getD true)
      toProject := some (loaded.settings.logging.toProject.getD true)
      project := some root
      globalLogs := env.globalLogs }
  have hready : ready = { machine with logger := machine.logger.enable.configure options } := rfl
  rw [hready]
  simp [LogsTwice, configure, enable, options]

/-- An entry is one line, and a file gets it at most twice. No file gets it twice unless the
    user's logs and the project's are the same and every write succeeds. In a run they are
    the same where its project, or else its directory, is the user's home, or has its logs
    where the user's have been moved. -/
theorem line_once_spec (l : Logger) (home : Path) (stamp : Stamp) (e : Event)
    (fs : FileSystem) :
    let run := (l.record home stamp e : StateM FileSystem Logger) fs
    (∀ p, ∃ n ≤ 2, fs.Gains run.2 p (l.line stamp e) n ∧
        run.2.lineCount p = fs.lineCount p + n) ∧
      ((∀ p, run.2.lineCount p ≤ fs.lineCount p + 1) ↔
        ¬ (l.accepts e.level = true ∧ l.LogsTwice home fs ∧
          run.1.failedWrites = l.failedWrites)) ∧
      ∀ (env : Environment) (loaded : Loaded) (machine : Machine),
        let ready := ((prepareLog env loaded false : StateM Machine Unit) machine).2
        let root := loaded.project.getD env.directory
        ready.logger.LogsTwice ready.home ready.files ↔
          loaded.settings.logging.toGlobal.getD true = true ∧
            loaded.settings.logging.toProject.getD true = true ∧
            machine.files.isPresent (settingsDirectory root) = true ∧
            (env.globalLogs <|> machine.logger.globalLogs).elim (machine.home = root)
              (· = logsDirectory root) := by
  obtain ⟨hgains, honce⟩ := lineCount_record l home fs stamp e
  exact ⟨hgains, honce, logsTwice_prepareLog⟩

/-- A run in the user's home, where the settings are, logs its entries twice. -/
theorem line_once_spec_home :
    let machine := sampleMachine [("/home", .directory), ("/home/.pagewright", .directory)]
    let env : Environment := { home := machine.home, directory := machine.home }
    let ready := ((prepareLog env ⟨{}, none⟩ false : StateM Machine Unit) machine).2
    let after := ((ready.logger.record ready.home ready.stamp (.result ["version"] 0 none) :
      StateM FileSystem Logger) ready.files).2
    ready.logger.LogsTwice ready.home ready.files ∧
      ¬ ∀ p, after.lineCount p ≤ ready.files.lineCount p + 1 := by
  intro machine env ready after
  obtain ⟨-, honce, hready⟩ := line_once_spec ready.logger ready.home ready.stamp
    (.result ["version"] 0 none) ready.files
  have htwice : ready.logger.LogsTwice ready.home ready.files :=
    (hready env ⟨{}, none⟩ machine).mpr ⟨rfl, rfl, by decide +kernel, rfl⟩
  refine ⟨htwice, fun hcount => honce.mp hcount ⟨?_, htwice, ?_⟩⟩
  · decide +kernel
  · decide +kernel

end StaticPages.Command
