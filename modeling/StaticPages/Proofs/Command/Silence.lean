import StaticPages.Proofs.Arguments.Spelling
import StaticPages.Proofs.Command.Trace
import StaticPages.Proofs.Log.Outside

namespace StaticPages

namespace Flags.AgreesBut

variable {name key : String} {flags other : Flags}

end Flags.AgreesBut

namespace Command

section Congr

variable {m : Type → Type} [Monad m] [FileAccess m] [Console m] [Journal m] {call : Call}
  {flags : Flags}

end Congr

/-- The files that a call has pages written to. -/
def Call.pages (call : Call) (settings : Settings) (directory : Path) (command : String) :
    List Path :=
  if command = "render" then pageFiles settings directory call else []

section Dispatch

variable {σ τ : Type} {R : σ → τ → Prop} [FileAccess (StateM σ)] [FileAccess (StateM τ)]
  [Console (StateM σ)] [Console (StateM τ)] [Journal (StateM σ)] [Journal (StateM τ)]
  {reads writes : Path → Prop} {settings : Settings} {directory : Path} {call : Call}

end Dispatch

namespace Machine

/-- Whether a machine is like one that logs, but for the logs, and has changed no file of some
    file system but those at some paths. -/
structure Shadows (logs targets : List Path) (start : FileSystem) (loud silent : Machine) :
    Prop where
  stdout : silent.stdout = loud.stdout
  stderr : silent.stderr = loud.stderr
  files : loud.files.AlikeOutside logs silent.files
  kept : start.SameBut targets silent.files
  disabled : silent.logger.disabled = true
  directories : ∀ directory ∈ loud.logger.directories loud.home, directory ∈ logs

variable {logs targets : List Path} {start : FileSystem}

theorem Shadows.of_files {loud silent : Machine} {files changed : FileSystem}
    (h : Shadows logs targets start loud silent) (hfiles : files.AlikeOutside logs changed)
    (hkept : silent.files.SameBut targets changed) :
    Shadows logs targets start { loud with files } { silent with files := changed } :=
  ⟨h.stdout, h.stderr, hfiles, h.kept.trans hkept, h.disabled, h.directories⟩

end Machine

section Run

variable {env : Environment} {tokens : List String} {machine : Machine}

/-- What a run does once its log is prepared. -/
def respond {m : Type → Type} [Monad m] [FileAccess m] [Console m] [Journal m]
    (env : Environment) (settings : Settings) (parsed : Arguments) : Action m Unit :=
  if parsed.flags.has "version" || parsed.flags.has "v" then printVersion
  else
    match parsed.positional with
    | [] => printMessage (parsed.flags.has "json") rootHelp
    | command :: words =>
      if parsed.flags.has "help" || parsed.flags.has "h" then
        printMessage (parsed.flags.has "json") (help command)
      else runLogged env settings command ⟨words, parsed.flags, parsed.flags.has "json"⟩

end Run

end Command

end StaticPages
