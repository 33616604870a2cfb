import LogPipeline.Handler.Basic
import LogPipeline.Text.Quoted

/-!
# Configurations

What a service is to build: the threshold, console output, file output and the call stack.
-/

namespace LogPipeline

/-- What a service is to build. -/
structure Config where
  level : Level := .info
  /-- Whether to log to the console, and whether as JSON. -/
  console : Bool := true
  consoleJson : Bool := false
  /-- The file to log to, and whether as JSON. -/
  filePath : Option String := none
  jsonFile : Bool := false
  /-- Whether lines show where a record was made. -/
  addSource : Bool := false
  /-- From which level on the call stack is attached, and how long it may be. -/
  stackLevel : Option Level := none
  stackMaxBytes : Nat := StackRule.defaultMaxBytes
  /-- The size from which on the file is moved away; zero for never. -/
  fileMaxSize : Nat := 0
  /-- How many files moved away are kept; zero for all. -/
  fileMaxBackups : Nat := 0
  /-- A sink that is used in the place of a file. -/
  fileWriter : Option Sink := none
  deriving DecidableEq, Repr

namespace Config

/-- The text of a truth value. -/
def boolText (b : Bool) : String := if b then "true" else "false"

/-- The text of a value that may be missing. -/
def optionText (text : Option String) : String :=
  match text with
  | some t => "Some(" ++ t ++ ")"
  | none => "None"

/-- The text of a configuration for debugging. Of a supplied sink only its presence shows. -/
def debugText (c : Config) : String :=
  "Config \x7b level: " ++ c.level.title ++
  ", console: " ++ boolText c.console ++
  ", console_json: " ++ boolText c.consoleJson ++
  ", file_path: " ++ optionText (c.filePath.map Text.quote) ++
  ", json_file: " ++ boolText c.jsonFile ++
  ", add_source: " ++ boolText c.addSource ++
  ", stacktrace_level: " ++ optionText (c.stackLevel.map (·.title)) ++
  ", stack_max_bytes: " ++ toString c.stackMaxBytes ++
  ", file_max_size_bytes: " ++ toString c.fileMaxSize ++
  ", file_max_backups: " ++ toString c.fileMaxBackups ++
  ", file_writer: " ++ optionText (c.fileWriter.map fun _ => "\"<sink>\"") ++ " \x7d"

end Config

end LogPipeline
