import StaticPages.Command.Host

namespace StaticPages.Command

variable {m : Type → Type} [Monad m] [FileAccess m]

/-- The first of some directories that has a settings file. -/
def firstProject : List Path → m (Option Path)
  | [] => pure none
  | directory :: rest => do
    if ← FileAccess.isPresent (settingsFile directory) then pure (some directory)
    else firstProject rest

/-- The nearest directory, from a path upwards, that has a settings file. -/
def findProject (start : Path) : m (Option Path) :=
  firstProject start.upwards

/-- The configuration in a file. A file that is not there configures nothing. -/
def readConfig (p : Path) : Action m Config := do
  if ← isPresent p then
    let text ← readText p
    match Config.parse p text with
    | .ok config => pure config
    | .error e => stop (.config e)
  else pure {}

/-- The settings of a run, and the project that they belong to. -/
structure Loaded where
  settings : Settings
  project : Option Path
  deriving DecidableEq, Repr

/-- The user's settings with those of the nearest project over them. -/
def load (env : Environment) : Action m Loaded := do
  let global ← readConfig (env.settingsFile.getD (settingsFile env.home))
  match ← ExceptT.lift (findProject env.directory) with
  | none => pure ⟨Config.overlay {} global, none⟩
  | some project =>
    let config ← readConfig (settingsFile project)
    pure ⟨global.overlay (config.inProject project), some project⟩

end StaticPages.Command
