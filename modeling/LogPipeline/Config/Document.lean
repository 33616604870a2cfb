import LogPipeline.Config.Basic
import LogPipeline.Json.Parser

/-!
# Configurations from JSON

A configuration is an object whose members are its fields, or a list of the fields in order. Fields
that are missing keep their defaults, unknown members are passed over whatever they hold, and no
field may be given twice.
-/

namespace LogPipeline

open Json (Written)

/-- Reads a level: its name, or an object with its name as the only member and null in it. -/
def Level.ofWritten? : Written → Option Level
  | .text parts => (Json.string? parts).bind Level.ofName?
  | .record [(parts, .null)] => (Json.string? parts).bind Level.ofName?
  | _ => none

/-- Reads a level from JSON text. -/
def Level.ofJson? (s : String) : Option Level := (Written.parse? s).bind Level.ofWritten?

namespace Config

/-- Reads a value that may be null. -/
def optional? {α : Type} (read : Written → Option α) : Written → Option (Option α)
  | .null => some none
  | w => (read w).map some

def readBool? : Written → Option Bool
  | .bool b => some b
  | _ => none

def readWord? : Written → Option Nat
  | .number t => t.toWord
  | _ => none

def readString? : Written → Option String
  | .text parts => Json.string? parts
  | _ => none

/-- A field of a configuration document. -/
inductive Field where
  | level
  | console
  | consoleJson
  | filePath
  | jsonFile
  | addSource
  | stackLevel
  | stackMaxBytes
  | fileMaxSize
  | fileMaxBackups
  deriving DecidableEq, Repr

namespace Field

/-- The fields in the order in which a list gives them. -/
def all : List Field :=
  [level, console, consoleJson, filePath, jsonFile, addSource, stackLevel, stackMaxBytes,
   fileMaxSize, fileMaxBackups]

/-- The name of a field as a member. -/
def name : Field → String
  | level => "level"
  | console => "console"
  | consoleJson => "console_json"
  | filePath => "file_path"
  | jsonFile => "json_file"
  | addSource => "add_source"
  | stackLevel => "stacktrace_level"
  | stackMaxBytes => "stack_max_bytes"
  | fileMaxSize => "file_max_size_bytes"
  | fileMaxBackups => "file_max_backups"

def ofName? (s : String) : Option Field := all.find? (·.name == s)

/-- Puts a value into a field of a configuration, if it is of the field's type. -/
def set? (f : Field) (w : Written) (c : Config) : Option Config :=
  match f with
  | level => (Level.ofWritten? w).map fun v => { c with level := v }
  | console => (readBool? w).map fun v => { c with console := v }
  | consoleJson => (readBool? w).map fun v => { c with consoleJson := v }
  | filePath => (optional? readString? w).map fun v => { c with filePath := v }
  | jsonFile => (readBool? w).map fun v => { c with jsonFile := v }
  | addSource => (readBool? w).map fun v => { c with addSource := v }
  | stackLevel => (optional? Level.ofWritten? w).map fun v => { c with stackLevel := v }
  | stackMaxBytes => (readWord? w).map fun v => { c with stackMaxBytes := v }
  | fileMaxSize => (readWord? w).map fun v => { c with fileMaxSize := v }
  | fileMaxBackups => (readWord? w).map fun v => { c with fileMaxBackups := v }

end Field

/-- Reads members; `seen` are the fields given before. -/
def ofMembers? (seen : List Field) (c : Config) :
    List (List Json.TextPart × Written) → Option Config
  | [] => some c
  | (parts, w) :: rest => do
    let name ← Json.string? parts
    match Field.ofName? name with
    | none => ofMembers? seen c rest
    | some f => if seen.contains f then none else ofMembers? (f :: seen) (← f.set? w c) rest

/-- Reads the values of fields in order; there may be fewer values than fields, but not more. -/
def ofElements? (c : Config) : List Field → List Written → Option Config
  | _, [] => some c
  | [], _ :: _ => none
  | f :: fields, w :: rest => do ofElements? (← f.set? w c) fields rest

def ofWritten? : Written → Option Config
  | .record members => ofMembers? [] {} members
  | .list elements => ofElements? {} Field.all elements
  | _ => none

/-- Reads a configuration from JSON text. -/
def ofJson? (s : String) : Option Config := (Written.parse? s).bind ofWritten?

end Config

end LogPipeline
