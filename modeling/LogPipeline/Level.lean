import LogPipeline.Text.Blank
import LogPipeline.Text.Quoted

/-!
# Severity levels

Four levels in ascending order of severity, their two spellings, and reading a level from a text
that a person wrote.
-/

namespace LogPipeline

/-- How severe a record is. -/
inductive Level where
  | debug
  | info
  | warn
  | error
  deriving DecidableEq, Repr, Inhabited

namespace Level

/-- The place of a level in the order of severity. -/
def rank : Level → Nat
  | debug => 0
  | info => 1
  | warn => 2
  | error => 3

instance : LE Level := ⟨fun a b => a.rank ≤ b.rank⟩
instance : LT Level := ⟨fun a b => a.rank < b.rank⟩
instance (a b : Level) : Decidable (a ≤ b) := inferInstanceAs (Decidable (a.rank ≤ b.rank))
instance (a b : Level) : Decidable (a < b) := inferInstanceAs (Decidable (a.rank < b.rank))

/-- All levels, the least severe first. -/
def all : List Level := [debug, info, warn, error]

/-- The spelling that records carry. -/
def tag : Level → String
  | debug => "DEBUG"
  | info => "INFO"
  | warn => "WARN"
  | error => "ERROR"

/-- The spelling in configuration documents. -/
def name : Level → String
  | debug => "debug"
  | info => "info"
  | warn => "warn"
  | error => "error"

/-- The spelling in the debugging text of a configuration. -/
def title : Level → String
  | debug => "Debug"
  | info => "Info"
  | warn => "Warn"
  | error => "Error"

/-- The level with exactly this configuration spelling. -/
def ofName? (s : String) : Option Level := all.find? (·.name == s)

/-- A text that names no level. -/
structure Unknown where
  text : String
  deriving DecidableEq, Repr

/-- The text is shown as it was given, quoted. -/
def Unknown.message (e : Unknown) : String := "unknown log level: " ++ Text.quote e.text

/-- Reads a level in any case and with blanks around it; `trace` and `warning` are second names. -/
def parse (s : String) : Except Unknown Level :=
  match Text.asciiLower (Text.trim s) with
  | "debug" | "trace" => .ok debug
  | "info" => .ok info
  | "warn" | "warning" => .ok warn
  | "error" => .ok error
  | _ => .error ⟨s⟩

end Level

end LogPipeline
