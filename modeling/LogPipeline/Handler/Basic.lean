import LogPipeline.Encoding
import LogPipeline.Sink.Basic

/-!
# Chains of handlers

A chain is a tree of stages. Its leaves write lines to sinks or record what they receive; the other
stages redact attributes, attach the call stack or hand a record to several stages. Chains are never
changed: binding attributes or opening a group gives a new one.
-/

namespace LogPipeline

/-- Why a record could not be delivered. -/
inductive DeliveryError where
  | io (cause : IoError)
  /-- The record could not be written as a line. -/
  | encoding (detail : String)
  deriving DecidableEq, Repr

def DeliveryError.message : DeliveryError → String
  | .io cause => "sink write failed: " ++ cause.message
  | .encoding detail => "record encoding failed: " ++ detail

/-- A leaf that writes each record at or above a threshold as one line. -/
structure Formatter where
  sink : Sink
  encoding : Encoding
  /-- The number of the threshold. -/
  threshold : Nat
  addSource : Bool
  scope : Scope
  deriving Repr

/-- A leaf that keeps each record it receives, with the derivations it went through itself. -/
structure Recorder where
  /-- The number under which the records are kept. -/
  number : Nat
  minimum : Level
  failure : Option DeliveryError
  path : List Derivation
  deriving Repr

/-- When a call stack is attached, and how long it may be. -/
structure StackRule where
  level : Level
  maxBytes : Nat
  deriving DecidableEq, Repr

/-- A tree of stages. -/
inductive Handler where
  | format (f : Formatter)
  | recorder (r : Recorder)
  | stack (rule : StackRule) (next : Handler)
  /-- Holds back what is bound and open, so that each record is redacted whole. -/
  | redaction (keys : Nat) (scope : Scope) (next : Handler)
  | fanout (children : List Handler)

/-- The outcome of delivering a record. -/
abbrev Delivery := Except DeliveryError Unit × World

namespace Formatter

/-- The line of a record. -/
def line (f : Formatter) (r : Record) : Bytes :=
  f.encoding.line r f.addSource (f.scope.resolve r.attrs)

/-- Writes the line of a record that passes the threshold. -/
def handle (f : Formatter) (r : Record) (w : World) : Delivery :=
  if w.allows f.threshold r.level then
    let (result, w) := f.sink.write (f.line r) w
    ((result.map fun _ => ()).mapError .io, w)
  else (.ok (), w)

end Formatter

namespace Recorder

/-- Keeps a record. -/
def handle (k : Recorder) (r : Record) (w : World) : Delivery :=
  let kept := (w.received.find? k.number).getD []
  ((match k.failure with
    | some e => .error e
    | none => .ok ()),
    { w with received := w.received.put k.number (kept ++ [⟨k.path, r⟩]) })

end Recorder

namespace StackRule

/-- The cap on an attached call stack if none is given. -/
def defaultMaxBytes : Nat := 64 * 1024

/-- The longest beginning of a text of at most `room` octets. -/
def fit : Nat → List Char → List Char
  | _, [] => []
  | room, c :: rest => if c.utf8Size ≤ room then c :: fit (room - c.utf8Size) rest else []

/-- The call stack within the cap. -/
def capture (rule : StackRule) (w : World) : String :=
  String.ofList (fit rule.maxBytes w.callStack.toList)

/-- The record with the call stack as its last attribute, if it is severe enough. -/
def augment (rule : StackRule) (r : Record) (w : World) : Record :=
  if r.level < rule.level then r else r.append [⟨"stack", .str (rule.capture w)⟩]

end StackRule

/-- The record as it leaves a redaction stage. With no keys, nothing bound and nothing open it is
the very record. -/
def redacted (keys : KeySet) (scope : Scope) (r : Record) : Record :=
  if keys.isEmpty && scope.isEmpty then r
  else
    let attrs := scope.resolve r.attrs
    { r with attrs := if keys.isEmpty then attrs else redactAttrs keys attrs }

namespace Handler

mutual

/-- Whether a record of the level would be emitted. -/
def enabled (w : World) (level : Level) : Handler → Bool
  | .format f => w.allows f.threshold level
  | .recorder r => r.minimum ≤ level
  | .stack _ next | .redaction _ _ next => next.enabled w level
  | .fanout children => anyEnabled w level children

def anyEnabled (w : World) (level : Level) : List Handler → Bool
  | [] => false
  | h :: rest => h.enabled w level || anyEnabled w level rest

end

mutual

/-- Delivers a record. -/
def handle : Handler → Record → World → Delivery
  | .format f, r, w => f.handle r w
  | .recorder k, r, w => k.handle r w
  | .stack rule next, r, w => next.handle (rule.augment r w) w
  | .redaction keys scope next, r, w => next.handle (redacted (w.keys keys) scope r) w
  | .fanout children, r, w => handleAll children r w

/-- Delivers a record to every handler in order, whether or not one before it fails; the result is
the first failure. -/
def handleAll : List Handler → Record → World → Delivery
  | [], _, w => (.ok (), w)
  | h :: rest, r, w =>
    let (first, w) := h.handle r w
    let (others, w) := handleAll rest r w
    (match first with
      | .error e => .error e
      | .ok () => others, w)

end

mutual

/-- The chain derived by binding attributes or opening a group. -/
def derive (d : Derivation) : Handler → Handler
  | .format f => .format { f with scope := f.scope.derive d }
  | .recorder r => .recorder { r with path := r.path ++ [d] }
  | .stack rule next => .stack rule (next.derive d)
  | .redaction keys scope next => .redaction keys (scope.derive d) next
  | .fanout children => .fanout (deriveAll d children)

def deriveAll (d : Derivation) : List Handler → List Handler
  | [] => []
  | h :: rest => h.derive d :: deriveAll d rest

end

/-- Binds attributes. -/
def bind (h : Handler) (attrs : List Attr) : Handler := h.derive (.attrs attrs)

/-- Opens a group. -/
def enter (h : Handler) (name : String) : Handler := h.derive (.group name)

/-- Attaches the call stack to records from a level on; no level leaves the handler as it is, and a
cap of zero stands for the usual one. -/
def attachStack (next : Handler) (level : Option Level) (maxBytes : Nat) : Handler :=
  match level with
  | none => next
  | some level =>
    .stack ⟨level, if maxBytes = 0 then StackRule.defaultMaxBytes else maxBytes⟩ next

/-- Redacts attributes by a set of keys. -/
def redact (next : Handler) (keys : Nat) : Handler := .redaction keys .empty next

/-- One handler for several: none for none, a single one itself, and a fan-out over more. -/
def combine : List Handler → Option Handler
  | [] => none
  | [h] => some h
  | children => some (.fanout children)

end Handler

end LogPipeline
