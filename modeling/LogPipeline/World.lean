import LogPipeline.Record.Scope
import LogPipeline.Redaction.Keys
import LogPipeline.Sink.Rotator

/-!
# The state that chains share

Chains are values; what changes while they run is kept here by number: the sinks' contents and
files, level thresholds, sets of redacted keys and what recording stages have received. Beside them
stand the surroundings: clock, environment variables, console and file system.
-/

namespace LogPipeline

/-- A sink in memory: the octets written, and how often it was closed. -/
structure Buffer where
  content : Bytes
  closes : Nat
  deriving DecidableEq, Repr, Inhabited

/-- A file that is open for appending until it is closed. -/
structure Appender where
  path : String
  handle : Option Nat
  deriving DecidableEq, Repr

/-- A device that takes a number of writes and refuses all later ones. -/
structure FaultyDevice where
  message : String
  remaining : Nat
  /-- How often it was written to, whether it took the write or not. -/
  attempts : Nat
  deriving DecidableEq, Repr

/-- How many octets a stream still takes, and the error of a write of more. -/
structure StreamLimit where
  room : Nat
  error : IoError
  deriving DecidableEq, Repr

/-- A record that a recording stage received, and the derivations it went through. -/
structure Received where
  path : List Derivation
  record : Record

/-- The surroundings, and all objects by number. -/
structure World where
  /-- Nanoseconds since the start of 1970. -/
  clock : Int
  environment : List (String × Bytes)
  /-- Whether the console is a terminal. -/
  terminal : Bool
  /-- The text of a captured call stack. -/
  callStack : String
  /-- What the console took. -/
  console : Bytes
  /-- How much more the console takes; none if it takes everything. -/
  consoleLimit : Option StreamLimit
  files : FileSystem
  buffers : Table Buffer
  appenders : Table Appender
  rotators : Table Rotator
  /-- How often the opened file of each number was closed. -/
  fileCloses : Table Nat
  devices : Table FaultyDevice
  levels : Table Level
  keySets : Table KeySet
  received : Table (List Received)
  /-- The number of the next object. -/
  next : Nat

namespace World

/-- The state before anything has happened. -/
def initial (clock : Int) (callStack : String) : World where
  clock
  environment := []
  terminal := false
  callStack
  console := []
  consoleLimit := none
  files := .empty
  buffers := .empty
  appenders := .empty
  rotators := .empty
  fileCloses := .empty
  devices := .empty
  levels := .empty
  keySets := .empty
  received := .empty
  next := 0

def now (w : World) : Timestamp := .ofNanoseconds w.clock

/-- A number that no object has yet. -/
def fresh (w : World) : Nat × World := (w.next, { w with next := w.next + 1 })

/-- The value of an environment variable, if it is set to a text. -/
def envText? (w : World) (name : String) : Option String :=
  (w.environment.lookup name).bind Text.utf8Decode?

/-- Whether an environment variable is set and not empty. -/
def hasVariable (w : World) (name : String) : Bool :=
  match w.environment.lookup name with
  | some bytes => !bytes.isEmpty
  | none => false

/-- Sets an environment variable, or unsets it. -/
def setVariable (w : World) (name : String) (bytes : Option Bytes) : World :=
  let others := w.environment.filter (·.1 != name)
  { w with environment := match bytes with
      | some bytes => (name, bytes) :: others
      | none => others }

/-- The threshold with the number. -/
def level (w : World) (threshold : Nat) : Level := (w.levels.find? threshold).getD .info

def setLevel (w : World) (threshold : Nat) (level : Level) : World :=
  { w with levels := w.levels.put threshold level }

@[simp] theorem level_setLevel (w : World) (i j : Nat) (level : Level) :
    (w.setLevel i level).level j = if i = j then level else w.level j := by
  simp only [World.level, setLevel, Table.find?_put]
  split <;> rfl

/-- Whether a record of the level passes the threshold. -/
def allows (w : World) (threshold : Nat) (level : Level) : Bool := w.level threshold ≤ level

/-- The set of keys with the number. -/
def keys (w : World) (set : Nat) : KeySet := (w.keySets.find? set).getD .empty

def setKeys (w : World) (set : Nat) (keys : KeySet) : World :=
  { w with keySets := w.keySets.put set keys }

@[simp] theorem keys_setKeys (w : World) (i j : Nat) (keys : KeySet) :
    (w.setKeys i keys).keys j = if i = j then keys else w.keys j := by
  simp only [World.keys, setKeys, Table.find?_put]
  split <;> rfl

/-- Makes a threshold. -/
def newLevel (w : World) (level : Level) : Nat × World :=
  let (threshold, w) := w.fresh
  (threshold, w.setLevel threshold level)

/-- Makes an empty set of keys. -/
def newKeys (w : World) : Nat × World :=
  let (set, w) := w.fresh
  (set, w.setKeys set .empty)

/-- The octets that the console takes of those it is given. -/
def consoleTakes (w : World) (bytes : Bytes) : Bytes :=
  match w.consoleLimit with
  | none => bytes
  | some limit => bytes.take limit.room

/-- Writes octets to the console. It accepts all of them, or takes a beginning and fails. -/
def writeConsole (w : World) (bytes : Bytes) : Except IoError Nat × World :=
  (match w.consoleLimit with
    | none => .ok bytes.length
    | some limit => if bytes.length ≤ limit.room then .ok bytes.length else .error limit.error,
    { w with
      console := w.console ++ w.consoleTakes bytes
      consoleLimit := w.consoleLimit.map fun l => { l with room := l.room - bytes.length } })

/-- Counts that the opened file of a number is closed. -/
def countFileClose (w : World) (n : Nat) : World :=
  { w with fileCloses := w.fileCloses.put n ((w.fileCloses.find? n).getD 0 + 1) }

/-- Whether console output is to be coloured: a terminal, unless `NO_COLOR` is set. -/
def wantsColor (w : World) : Bool := !w.hasVariable "NO_COLOR" && w.terminal

end World

end LogPipeline
