import LogPipeline.Config.Basic

/-!
# Configurations from environment variables

Each variable that is set and can be read overrides one field of the default configuration.
-/

namespace LogPipeline

/-- The value of a variable, or a default where it is unset or no text. -/
def World.variableOr (w : World) (name default : String) : String := (w.envText? name).getD default

namespace Config

/-- Reads a truth value in any case and with blanks around it. -/
def bool? (s : String) : Option Bool :=
  match Text.asciiLower (Text.trim s) with
  | "1" | "true" | "yes" | "on" => some true
  | "0" | "false" | "no" | "off" => some false
  | _ => none

/-- Reads a natural number of 64 bits; a plus sign may stand in front. -/
def word? (s : String) : Option Nat :=
  let digits := match (Text.trim s).toList with
    | '+' :: rest => rest
    | cs => cs
  if !digits.isEmpty && digits.all Char.isDigit then
    let n := digits.foldl (fun n c => n * 10 + (c.toNat - 48)) 0
    if n < UInt64.size then some n else none
  else none

/-- The default configuration with what the variables override. An empty file name counts as none,
and a level for the call stack that cannot be read switches it off. -/
def ofVariables (lookup : String → Option String) : Config :=
  let default : Config := {}
  let flag (name : String) (default : Bool) : Bool := ((lookup name).bind bool?).getD default
  { default with
    level := ((lookup "LOGCHAIN_LEVEL").bind fun s => (Level.parse s).toOption).getD default.level
    console := flag "LOGCHAIN_CONSOLE" default.console
    consoleJson := flag "LOGCHAIN_CONSOLE_JSON" default.consoleJson
    filePath := (lookup "LOGCHAIN_FILE").filter (!·.isEmpty)
    jsonFile := flag "LOGCHAIN_JSON_FILE" default.jsonFile
    addSource := flag "LOGCHAIN_ADD_SOURCE" default.addSource
    stackLevel := (lookup "LOGCHAIN_STACKTRACE_LEVEL").bind fun s => (Level.parse s).toOption
    fileMaxSize := ((lookup "LOGCHAIN_FILE_MAX_SIZE").bind word?).getD default.fileMaxSize
    fileMaxBackups :=
      ((lookup "LOGCHAIN_FILE_MAX_BACKUPS").bind word?).getD default.fileMaxBackups }

/-- The configuration that the environment asks for. -/
def ofEnvironment (w : World) : Config := ofVariables w.envText?

end Config

end LogPipeline
