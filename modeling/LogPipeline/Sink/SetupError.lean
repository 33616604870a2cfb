import LogPipeline.File.Error

/-!
# Errors of setting up

Why a sink or the forwarding of events could not be set up, and the text that says so.
-/

namespace LogPipeline

/-- Why a sink could not be set up. -/
inductive SetupError where
  | createDir (path : String) (cause : IoError)
  | openFile (path : String) (cause : IoError)
  /-- Events are forwarded elsewhere already. -/
  | subscriberInstalled
  deriving DecidableEq, Repr

namespace SetupError

def message : SetupError → String
  | createDir path cause => "failed to create log directory " ++ path ++ ": " ++ cause.message
  | openFile path cause => "failed to open log file " ++ path ++ ": " ++ cause.message
  | subscriberInstalled => "failed to install tracing subscriber: " ++
      "a global default trace dispatcher has already been set"

/-- The error below this one. -/
def cause? : SetupError → Option IoError
  | createDir _ cause | openFile _ cause => some cause
  | subscriberInstalled => none

end SetupError

end LogPipeline
