import LogPipeline.Proofs.File.Operations
import LogPipeline.Proofs.Service.Session
import Mathlib.Data.List.Forall2

/-!
# A register of configurations

Which lines a service owes to which files, told from the requests alone. A `Register` is kept beside
a session. It knows the configuration that is in force, if one is, and for each logger the
configuration that it was got from and the derivations since. It does not look at chains, sinks or
open files. A record is owed to a file if it is logged through a logger of the very configuration
that is in force; configuring, resetting and installing a logger end that configuration.
-/

namespace LogPipeline

/-- Where the file of a configuration stands, if the configuration names one that can be opened. -/
def Config.target? (cfg : Config) (fs : FileSystem) : Option Location :=
  match cfg.fileWriter, cfg.filePath with
  | none, some path =>
    match fs.openAppend path with
    | (.ok _, fs) => (fs.find path).toOption.map (·.1)
    | (.error _, _) => none
  | _, _ => none

/-- How a logger was got: from which configuration, counted from the first one on, and by which
derivations. -/
structure Origin where
  configuration : Nat
  path : List Derivation

/-- The configuration that is in force. -/
structure InForce where
  number : Nat
  cfg : Config
  target : Option Location

structure Register where
  /-- How many configurations there have been. -/
  made : Nat
  inForce : Option InForce
  /-- The origin of the active logger; none if it is not of the service's making. -/
  active : Option Origin
  loggers : List (Option Origin)
  /-- The lines owed so far. -/
  lines : List (Location × Bytes)

namespace Register

def empty : Register := ⟨0, none, none, [], []⟩

/-- The configuration in force, if a logger is of that very configuration. -/
def live? (g : Register) (origin : Option Origin) : Option (InForce × Origin) :=
  match g.inForce, origin with
  | some c, some o => if o.configuration = c.number then some (c, o) else none
  | _, _ => none

/-- The line of a record under a configuration. -/
def lineOf (cfg : Config) (path : List Derivation) (s : Service) (r : Record) (w : World) : Bytes :=
  let attrs := redactAttrs (w.keys s.keys) (merged path r.attrs) ++
    stackAttrs cfg r.level w.callStack
  (encodingOf cfg.jsonFile).line { r with attrs } cfg.addSource attrs

/-- What is owed for a record: its line to the file of the configuration in force, if the logger is
of that configuration and the level is enabled. -/
def owed (g : Register) (origin : Option Origin) (s : Service) (r : Record) (w : World) :
    List (Location × Bytes) :=
  match g.live? origin with
  | none => []
  | some (c, o) =>
    if r.level < s.level w then [] else (c.target.map (·, lineOf c.cfg o.path s r w)).toList

/-- A configuration comes into force. -/
def configured (g : Register) (cfg : Config) (fs : FileSystem) : Register :=
  { g with
    made := g.made + 1
    inForce := some ⟨g.made, cfg, cfg.target? fs⟩
    active := some ⟨g.made, []⟩ }

/-- Another logger takes the place of the active one, and no configuration is in force. -/
def replaced (g : Register) (active : Option Origin) : Register :=
  { g with inForce := none, active }

def got (g : Register) (origin : Option Origin) : Register :=
  { g with loggers := g.loggers ++ [origin] }

/-- Takes down a request made in the state `st`. -/
def note (g : Register) (st : Session) : Request → Register
  | .configure cfg => g.configured cfg st.world.files
  | .reset | .install _ => g.replaced none
  | .reinstall i =>
    match g.loggers[i]? with
    | none => g
    | some origin => g.replaced origin
  | .setLevel _ | .setKeys _ | .setClock _ => g
  | .fetch =>
    let g := if st.service.isConfigured then g else g.configured {} st.world.files
    g.got g.active
  | .derive i d =>
    match g.loggers[i]? with
    | none => g
    | some origin => g.got (origin.map fun o => { o with path := o.path ++ [d] })
  | .log i make =>
    match g.loggers[i]? with
    | none => g
    | some origin =>
      { g with lines := g.lines ++ g.owed origin st.service (make st.world.now) st.world }

/-- Takes down a run. -/
def follow (g : Register) (st : Session) : List Request → Register
  | [] => g
  | req :: rest => (g.note st req).follow (st.step req) rest

/-- What is owed to one file, in order. -/
def linesTo (g : Register) (l : Location) : Bytes :=
  g.lines.flatMap fun line => if line.1 = l then line.2 else []

end Register

/-- What is related place by place stands at the same places. -/
theorem getElem?_of_forall₂ {α β : Type} {R : α → β → Prop} {as : List α} {bs : List β}
    (h : List.Forall₂ R as bs) (i : Nat) :
    as[i]? = none ∧ bs[i]? = none ∨ ∃ a b, as[i]? = some a ∧ bs[i]? = some b ∧ R a b := by
  induction h generalizing i with
  | nil => exact .inl ⟨rfl, rfl⟩
  | cons hab _ ih =>
    cases i with
    | zero => exact .inr ⟨_, _, rfl, rfl, hab⟩
    | succ i => exact ih i

/-- Files are opened without rotation, and sinks that come from elsewhere write to no file. -/
def Request.Plain : Request → Prop
  | .configure cfg => cfg.fileMaxSize = 0 ∧ ∀ sink, cfg.fileWriter = some sink → sink.Fileless
  | .install l => ∀ sink ∈ l.handler.sinks, sink.Fileless
  | _ => True

end LogPipeline
