import LogPipeline.Sink.Color
import LogPipeline.World

/-!
# Sinks

Where lines go at the end of a chain. A sink is a reference: two sinks are the same object exactly
if they are equal, and what was written stands in the shared state.
-/

namespace LogPipeline

/-- A destination of octets. -/
inductive Sink where
  | console (number : Nat)
  /-- Takes everything and keeps nothing. -/
  | discard (number : Nat)
  | buffer (number : Nat)
  | appender (number : Nat)
  | rotator (number : Nat)
  | device (number : Nat)
  /-- Colours the level tag of each line on its way to another sink. -/
  | colored (number : Nat) (inner : Sink)
  deriving DecidableEq, Repr

namespace Sink

/-- Writes octets in one piece. The result is how many the sink accepted. -/
def write : Sink → Bytes → World → Except IoError Nat × World
  | .console _, bytes, w => w.writeConsole bytes
  | .discard _, bytes, w => (.ok bytes.length, w)
  | .buffer n, bytes, w =>
    let b := (w.buffers.find? n).getD default
    (.ok bytes.length,
      { w with buffers := w.buffers.put n { b with content := b.content ++ bytes } })
  | .appender n, bytes, w =>
    match (w.appenders.find? n).bind (·.handle) with
    | none => (.error .closed, w)
    | some file => (.ok bytes.length, { w with files := w.files.append file bytes })
  | .rotator n, bytes, w =>
    match w.rotators.find? n with
    | none => (.error .closed, w)
    | some r =>
      let (result, r, files) := r.write w.now bytes w.files
      (result, { w with rotators := w.rotators.put n r, files })
  | .device n, bytes, w =>
    match w.devices.find? n with
    | none => (.error .closed, w)
    | some d =>
      let tried := { d with remaining := d.remaining - 1, attempts := d.attempts + 1 }
      (if d.remaining = 0 then .error (.device d.message) else .ok bytes.length,
        { w with devices := w.devices.put n tried })
  | .colored _ inner, bytes, w =>
    match Color.paint? bytes with
    | none => inner.write bytes w
    | some painted =>
      let (result, w) := inner.write painted w
      (result.map fun _ => bytes.length, w)

/-- Releases what the sink holds. Closing again changes nothing but the count. -/
def close : Sink → World → World
  | .console _, w | .discard _, w | .device _, w => w
  | .buffer n, w =>
    let b := (w.buffers.find? n).getD default
    { w with buffers := w.buffers.put n { b with closes := b.closes + 1 } }
  | .appender n, w =>
    let w := w.countFileClose n
    match w.appenders.find? n with
    | none => w
    | some a => { w with appenders := w.appenders.put n { a with handle := none } }
  | .rotator n, w =>
    let w := w.countFileClose n
    match w.rotators.find? n with
    | none => w
    | some r => { w with rotators := w.rotators.put n r.close }
  | .colored _ inner, w => inner.close w

/-! ## Making sinks -/

def newConsole (w : World) : Sink × World :=
  let (n, w) := w.fresh
  (.console n, w)

def newDiscard (w : World) : Sink × World :=
  let (n, w) := w.fresh
  (.discard n, w)

def newBuffer (w : World) : Sink × World :=
  let (n, w) := w.fresh
  (.buffer n, { w with buffers := w.buffers.put n default })

/-- A device that accepts `after` writes. -/
def newDevice (message : String) (after : Nat) (w : World) : Sink × World :=
  let (n, w) := w.fresh
  (.device n, { w with devices := w.devices.put n ⟨message, after, 0⟩ })

def newColored (inner : Sink) (w : World) : Sink × World :=
  let (n, w) := w.fresh
  (.colored n inner, w)

/-- Opens a file for appending, in a directory that has to be there. -/
def openFile (path : String) (w : World) : Except IoError Sink × World :=
  match w.files.openAppend path with
  | (.error e, files) => (.error e, { w with files })
  | (.ok file, files) =>
    let (n, w) := { w with files }.fresh
    (.ok (.appender n), { w with appenders := w.appenders.put n ⟨path, some file⟩ })

/-- Opens a rotating file, in a directory that is made if it is missing. -/
def openRotating (path : String) (maxSize maxBackups : Nat) (w : World) :
    Except SetupError Sink × World :=
  match Rotator.create path maxSize maxBackups w.files with
  | (.error e, files) => (.error e, { w with files })
  | (.ok r, files) =>
    let (n, w) := { w with files }.fresh
    (.ok (.rotator n), { w with rotators := w.rotators.put n r })

/-! ## Reading what was written -/

/-- The text in a buffer. -/
def bufferText (b : Buffer) : String := Text.utf8Lossy b.content

/-- The lines of a text; a carriage return before the end of a line belongs to the end. -/
def linesOf (s : String) : List String :=
  let pieces := s.toList.splitOn '\n'
  let ended := pieces.dropLast.map fun l => if l.getLast? == some '\r' then l.dropLast else l
  let unended := pieces.getLast?.getD []
  (ended ++ if unended.isEmpty then [] else [unended]).map String.ofList

/-- The lines in a buffer that are not empty. -/
def bufferLines (b : Buffer) : List String := (linesOf (bufferText b)).filter (!·.isEmpty)

end Sink

end LogPipeline
