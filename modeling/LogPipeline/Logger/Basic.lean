import LogPipeline.Handler.Stage

/-!
# Loggers

What a program calls. A logger makes a record only if its chain would emit one of that level, and
never fails: an error of the chain is dropped.
-/

namespace LogPipeline

/-- A front end of a chain. -/
structure Logger where
  stage : Stage

namespace Logger

def handler (l : Logger) : Handler := l.stage.handler

/-- Whether a record of the level would be emitted. -/
def enabled (l : Logger) (level : Level) (w : World) : Bool := l.handler.enabled w level

/-- Delivers a record that is made already. -/
def logRecord (l : Logger) (r : Record) (w : World) : World :=
  if l.enabled r.level w then (l.handler.handle r w).2 else w

/-- Makes a record at the current time and delivers it. -/
def log (l : Logger) (level : Level) (message : String) (attrs : List Attr) (source : Source)
    (w : World) : World :=
  if l.enabled level w then
    (l.handler.handle ⟨w.now, level, message, attrs, some source⟩ w).2
  else w

/-- The exit status of a program that ends after a fatal error. -/
def fatalStatus : Nat := 1

/-- Logs at the most severe level and gives the status with which the program has to end. -/
def fatal (l : Logger) (message : String) (attrs : List Attr) (source : Source) (w : World) :
    Nat × World :=
  (fatalStatus, l.log .error message attrs source w)

/-- A logger that adds attributes to every record; for none, the logger itself. -/
def bind (l : Logger) (attrs : List Attr) (w : World) : Logger × World :=
  if attrs.isEmpty then (l, w)
  else
    let (s, w) := l.stage.derive (.attrs attrs) w
    (⟨s⟩, w)

/-- A logger that puts attributes under a group; for a group without a name, the logger itself. -/
def enter (l : Logger) (name : String) (w : World) : Logger × World :=
  if name.isEmpty then (l, w)
  else
    let (s, w) := l.stage.derive (.group name) w
    (⟨s⟩, w)

/-- What a logger reports of an error: its text, the name of its type, and its own fields. -/
structure Failure where
  text : String
  typeName : String
  fields : List Attr

/-- The attributes that report an error. -/
def Failure.attrs (f : Failure) : List Attr :=
  [⟨"error", .error f.text⟩, ⟨"error_type", .str f.typeName⟩] ++ f.fields

/-- Logs an error after other attributes. -/
def logFailure (l : Logger) (message : String) (f : Failure) (attrs : List Attr) (source : Source)
    (w : World) : World :=
  l.log .error message (attrs ++ f.attrs) source w

end Logger

/-- An operation whose end is still to be logged. -/
structure Timer where
  logger : Logger
  level : Level
  message : String
  attrs : List Attr
  /-- The clock at the start. -/
  start : Int

/-- Logs that an operation has started. -/
def Logger.timed (l : Logger) (level : Level) (message : String) (attrs : List Attr)
    (source : Source) (w : World) : Timer × World :=
  let w := l.log level (message ++ " started") attrs source w
  (⟨l, level, message ++ " completed", attrs, w.clock⟩, w)

/-- Logs that the operation is complete and how long it took; a clock that was set back gives no
time. -/
def Timer.finish (t : Timer) (extra : List Attr) (source : Source) (w : World) : World :=
  let took : Duration := ⟨(w.clock - t.start).toNat⟩
  t.logger.log t.level t.message (t.attrs ++ extra ++ [⟨"duration", .duration took⟩]) source w

end LogPipeline
