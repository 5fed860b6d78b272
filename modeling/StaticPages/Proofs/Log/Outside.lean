import StaticPages.Proofs.Files.Outside
import StaticPages.Proofs.Log.Logger

namespace StaticPages.Log.Logger

/-- The directories that a logger may log in, wherever projects have settings. -/
def directories (l : Logger) (home : Path) : List Path :=
  if l.disabled || l.level == .off then []
  else
    (if l.toGlobal then [l.globalLogs.getD (logsDirectory home)] else []) ++
      if l.toProject then l.project.toList.map logsDirectory else []

variable {logs : List Path}

end StaticPages.Log.Logger
