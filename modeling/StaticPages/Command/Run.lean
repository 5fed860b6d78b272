import StaticPages.Command.Inspect
import StaticPages.Command.Load

namespace StaticPages.Command

def version : String := "dev"

/-- Flags that never take a value. -/
def switches : List String :=
  ["json", "no-log", "help", "version", "stdout"]

def rootHelp : String :=
  "pagewright v" ++ version ++ "

pagewright <command>

Commands:
  render      Render Markdown documents into an HTML template
  inspect     Show placeholders of a template or the parts of a document
  version     Show version

Global options:
  --json             JSON output
  --no-log           Disable logging for this command
  --help, -h         Show help
  --version, -v      Show version
"

def help (command : String) : String :=
  match command with
  | "render" => renderHelp
  | "inspect" => inspectHelp
  | _ => rootHelp

variable {m : Type → Type} [Monad m] [FileAccess m] [Console m] [Journal m]

def printVersion : Action m Unit :=
  printJson (.object [("version", .string version)])

/-- The command of a name. -/
def dispatch (settings : Settings) (directory : Path) (command : String) (call : Call) :
    Action m Unit :=
  match command with
  | "render" => do
    let _ ← render settings directory call
  | "inspect" => inspect directory call
  | "version" => printVersion
  | command => stop (.usage (.unknownCommand command))

/-- Prepares the log for a run: none, or what the settings ask for. -/
def prepareLog (env : Environment) (loaded : Loaded) (disabled : Bool) : m Unit := do
  if disabled then Journal.disable
  else
    Journal.enable
    Journal.configure
      { level := some (loaded.settings.logging.level.getD .info)
        toGlobal := some (loaded.settings.logging.toGlobal.getD true)
        toProject := some (loaded.settings.logging.toProject.getD true)
        project := some (loaded.project.getD env.directory)
        globalLogs := env.globalLogs }

/-- Notes how a command ended. A fault that the command does not report itself has
    no code in the log. -/
def recordEnd (words : List String) (fault : Option Fault) : Action m Unit := do
  match fault with
  | none => record (.result words 0 none)
  | some f =>
    record (.error (if f.isOwn then some f.code.text else none) f.message
      (some { command := some words }))
    record (.result words 1 none)

/-- Runs a command and logs its begin, its faults and its end. -/
def runLogged (env : Environment) (settings : Settings) (command : String) (call : Call) :
    Action m Unit := do
  let words := command :: call.words
  record (.command words call.words call.flags env.directory.toText)
  match ← ExceptT.lift (dispatch settings env.directory command call).run with
  | .ok () => recordEnd words none
  | .error fault =>
    recordEnd words (some fault)
    stop fault

/-- Runs a command line. -/
def run (env : Environment) (tokens : List String) : Action m Unit := do
  let parsed := Arguments.parse switches tokens
  let flags := parsed.flags
  let json := flags.has "json"
  let loaded ← load env
  ExceptT.lift (prepareLog env loaded (flags.has "no-log"))
  if flags.has "version" || flags.has "v" then printVersion
  else
    match parsed.positional with
    | [] => printMessage json rootHelp
    | command :: words =>
      if flags.has "help" || flags.has "h" then printMessage json (help command)
      else runLogged env loaded.settings command ⟨words, flags, json⟩

/-- A fault as JSON. -/
def Report.toJson (r : Report) : Json :=
  .object [("error", .object [("code", .string r.code.text), ("message", .string r.message),
    ("details", .object r.details)])]

/-- Runs a command line as a program, and gives its exit code. A fault is reported
    as JSON on standard output if the very word `--json` is among the tokens, and
    otherwise by its message on standard error. -/
def execute (env : Environment) (tokens : List String) : m Int := do
  match ← (run env tokens).run with
  | .ok () => pure 0
  | .error fault =>
    let report := fault.report
    if tokens.contains "--json" then Console.print (report.toJson.pretty ++ "\n")
    else Console.printError (report.message ++ "\n")
    pure report.exitCode

end StaticPages.Command
