import LogPipeline.Logger.Basic
import LogPipeline.Sink.SetupError

/-!
# Events of instrumentation

An event has named fields; the text field `message` becomes the message of a record and all other
fields attributes, after the attribute `target`.
-/

namespace LogPipeline

/-- How severe an event is. -/
inductive EventLevel where
  | trace
  | debug
  | info
  | warn
  | error
  deriving DecidableEq, Repr

/-- The level of an event's record; there is none below `debug`. -/
def EventLevel.level : EventLevel → Level
  | trace | debug => .debug
  | info => .info
  | warn => .warn
  | error => .error

/-- What a field holds. -/
inductive FieldValue where
  | str (s : String)
  | int (n : Int64)
  | uint (n : UInt64)
  | float (x : Binary64)
  | bool (b : Bool)
  | error (text : String)
  /-- A value that is only known by its text for debugging. -/
  | shown (text : String)

/-- An event. -/
structure Event where
  level : EventLevel
  target : String
  file : Option String
  line : Option Nat
  fields : List (String × FieldValue)

namespace FieldValue

/-- The value of the attribute that the field becomes. -/
def value : FieldValue → Value
  | str s => .str s
  | int n => .int n
  | uint n => .uint n
  | float x => .float x
  | bool b => .bool b
  | error text => .error text
  | shown text => .str text

/-- The text with which the field can be the message. -/
def message? : FieldValue → Option String
  | str s => some s
  | shown text => some text
  | _ => none

end FieldValue

namespace Event

/-- The text of a field that is the message. -/
def messageOf? (field : String × FieldValue) : Option String :=
  if field.1 = "message" then field.2.message? else none

/-- The message: that of the last field that is one, or empty. -/
def message (e : Event) : String := ((e.fields.filterMap messageOf?).getLast?).getD ""

/-- The attributes: the target, and each field that is not the message. -/
def attrs (e : Event) : List Attr :=
  ⟨"target", .str e.target⟩ ::
    (e.fields.filter fun f => (messageOf? f).isNone).map fun f => ⟨f.1, f.2.value⟩

/-- Where the event was, if both file and line are known. -/
def source? (e : Event) : Option Source :=
  match e.file, e.line with
  | some file, some line => some ⟨file, line⟩
  | _, _ => none

/-- The record of an event. -/
def record (e : Event) (now : Timestamp) : Record :=
  ⟨now, e.level.level, e.message, e.attrs, e.source?⟩

/-- Passes an event to a logger. -/
def emit (e : Event) (l : Logger) (w : World) : World :=
  if l.enabled e.level.level w then l.logRecord (e.record w.now) w else w

end Event

end LogPipeline
