import LogPipeline.Config.Basic
import LogPipeline.Event.Basic

/-!
# Services

The owner of a program's active logger and of the sink that it writes files to. Configuring builds
a new chain, puts it in the place of the active one and only then closes the sink that is no longer
used. The threshold and the redacted keys belong to the service and outlive its chains.
-/

namespace LogPipeline

/-- A logger that is in use, and the sink that is closed when it no longer is. -/
structure Active where
  logger : Logger
  closer : Option Sink

/-- The owner of the active logger. -/
structure Service where
  active : Option Active
  /-- The numbers of its threshold and its set of redacted keys. -/
  threshold : Nat
  keys : Nat

namespace Service

/-- Makes a service that is not configured. -/
def make (w : World) : Service × World :=
  let (threshold, w) := w.newLevel .info
  let (keys, w) := w.newKeys
  (⟨none, threshold, keys⟩, w)

def isConfigured (s : Service) : Bool := s.active.isSome

def level (s : Service) (w : World) : Level := w.level s.threshold

/-- Changes the threshold of the active chain. -/
def setLevel (s : Service) (level : Level) (w : World) : World := w.setLevel s.threshold level

/-- A leaf that writes to a sink. -/
def terminal (s : Service) (sink : Sink) (isJson addSource : Bool) : Handler :=
  .format ⟨sink, if isJson then .json else .text, s.threshold, addSource, .empty⟩

/-- The console, coloured where that is wanted. -/
def consoleSink (w : World) : Sink × World :=
  let (sink, w) := Sink.newConsole w
  if w.wantsColor then Sink.newColored sink w else (sink, w)

/-- Opens the file of a configuration, as a rotating file if it has a largest size. -/
def openFileSink (path : String) (cfg : Config) (w : World) : Except SetupError Sink × World :=
  if cfg.fileMaxSize = 0 then
    let (result, w) := Sink.openFile path w
    (result.mapError (.openFile path), w)
  else Sink.openRotating path cfg.fileMaxSize cfg.fileMaxBackups w

/-- The sink for files that a configuration asks for: the one supplied, or a file to be opened. -/
def fileSink (cfg : Config) (w : World) : Except SetupError (Option Sink) × World :=
  match cfg.fileWriter, cfg.filePath with
  | some sink, _ => (.ok (some sink), w)
  | none, some path =>
    let (result, w) := openFileSink path cfg w
    (result.map some, w)
  | none, none => (.ok none, w)

/-- The leaves of a configuration with the given sink for files: the console and that sink. -/
def terminals (s : Service) (cfg : Config) (file : Option Sink) (w : World) :
    List Handler × World :=
  let (console, w) :=
    if cfg.console then
      let (sink, w) := consoleSink w
      ([s.terminal sink cfg.consoleJson cfg.addSource], w)
    else ([], w)
  (console ++ file.toList.map (s.terminal · cfg.jsonFile cfg.addSource), w)

/-- The chain over given leaves, or over the console if there is none. -/
def chain (s : Service) (cfg : Config) (leaves : List Handler) (w : World) : Handler × World :=
  let (terminal, w) := match Handler.combine leaves with
    | some h => (h, w)
    | none =>
      let (sink, w) := Sink.newConsole w
      (s.terminal sink false cfg.addSource, w)
  ((terminal.attachStack cfg.stackLevel cfg.stackMaxBytes).redact s.keys, w)

/-- Closes the sink of an earlier logger, unless it is still in use. -/
def release (previous : Option Active) (kept : Option Sink) (w : World) : World :=
  match previous.bind (·.closer) with
  | none => w
  | some sink => if kept = some sink then w else sink.close w

/-- Builds and installs the chain of a configuration. If its file cannot be opened, that is the
result, but a chain without the file is installed all the same. -/
def configure (s : Service) (cfg : Config) (w : World) :
    Except SetupError Unit × Service × World :=
  let (file, w) := fileSink cfg w
  let closer := match file with
    | .ok sink => sink
    | .error _ => none
  let (leaves, w) := s.terminals cfg closer w
  let (handler, w) := s.chain cfg leaves w
  let (stage, w) := Stage.make handler w
  let w := release s.active closer (s.setLevel cfg.level w)
  (file.map fun _ => (), { s with active := some ⟨⟨stage⟩, closer⟩ }, w)

/-- Goes back to the state before any configuration. -/
def reset (s : Service) (w : World) : Service × World :=
  let w := (s.setLevel .info w).setKeys s.keys .empty
  ({ s with active := none }, release s.active none w)

/-- Installs a logger whose sinks belong to the caller. -/
def setLogger (s : Service) (l : Logger) (w : World) : Service × World :=
  ({ s with active := some ⟨l, none⟩ }, release s.active none w)

/-- The active logger; a service that is not configured is given the default configuration. -/
def logger (s : Service) (w : World) : Logger × Service × World :=
  match s.active with
  | some a => (a.logger, s, w)
  | none =>
    let (_, s, w) := s.configure {} w
    match s.active with
    | some a => (a.logger, s, w)
    | none =>
      let (sink, w) := Sink.newConsole w
      let (stage, w) := Stage.make (s.terminal sink false false) w
      (⟨stage⟩, s, w)

end Service

/-- Where events are forwarded to: the active logger of a service at the time of the event, or one
logger. -/
inductive Forwarding where
  | active
  | fixed (l : Logger)

/-- Installs a forwarding for the whole program; there can be only one. -/
def Forwarding.install (f : Forwarding) : Option Forwarding → Except SetupError Forwarding
  | none => .ok f
  | some _ => .error .subscriberInstalled

/-- Forwards an event. -/
def Forwarding.emit (f : Forwarding) (e : Event) (s : Service) (w : World) : Service × World :=
  match f with
  | .fixed l => (s, e.emit l w)
  | .active =>
    let (l, s, w) := s.logger w
    (s, e.emit l w)

end LogPipeline
