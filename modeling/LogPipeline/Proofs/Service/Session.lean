import LogPipeline.Proofs.Handler.Effects
import LogPipeline.Proofs.Service.Chain

/-!
# Sessions

A `Session` is a service, its surroundings and the loggers that a program has got from it so far. The
program makes one request after the other; loggers of any age can be derived from, logged through and
installed again.

`configure_eq` says all that configuring does: it opens the file, installs a chain over the outlets
of the configuration, sets the threshold, and then closes the sink that was owned before. A sink that
is closed stays so, whatever is requested later (`idle_run`).
-/

namespace LogPipeline

/-- What a program asks of a service, or of a logger by its place among those that it has got. -/
inductive Request where
  | configure (cfg : Config)
  | reset
  /-- Installs any logger. -/
  | install (l : Logger)
  /-- Installs a logger that was got from the service. -/
  | reinstall (i : Nat)
  | setLevel (level : Level)
  | setKeys (keys : KeySet)
  | setClock (clock : Int)
  /-- Gets the active logger. -/
  | fetch
  | derive (i : Nat) (d : Derivation)
  /-- Logs a record, which may be made at the time of the call. -/
  | log (i : Nat) (make : Timestamp → Record)

/-- A service, its surroundings and the loggers got so far. -/
structure Session where
  service : Service
  world : World
  loggers : List Logger

/-- One step of derivation of a logger. -/
def Logger.derive (l : Logger) (d : Derivation) (w : World) : Logger × World :=
  match d with
  | .attrs attrs => l.bind attrs w
  | .group name => l.enter name w

namespace Session

def step (st : Session) : Request → Session
  | .configure cfg =>
    let p := (st.service.configure cfg st.world).2
    { st with service := p.1, world := p.2 }
  | .reset =>
    let p := st.service.reset st.world
    { st with service := p.1, world := p.2 }
  | .install l =>
    let p := st.service.setLogger l st.world
    { st with service := p.1, world := p.2 }
  | .reinstall i =>
    match st.loggers[i]? with
    | none => st
    | some l =>
      let p := st.service.setLogger l st.world
      { st with service := p.1, world := p.2 }
  | .setLevel level => { st with world := st.service.setLevel level st.world }
  | .setKeys keys => { st with world := st.world.setKeys st.service.keys keys }
  | .setClock clock => { st with world := { st.world with clock } }
  | .fetch =>
    let p := st.service.logger st.world
    { service := p.2.1, world := p.2.2, loggers := st.loggers ++ [p.1] }
  | .derive i d =>
    match st.loggers[i]? with
    | none => st
    | some l =>
      let p := l.derive d st.world
      { st with world := p.2, loggers := st.loggers ++ [p.1] }
  | .log i make =>
    match st.loggers[i]? with
    | none => st
    | some l => { st with world := l.logRecord (make st.world.now) st.world }

/-- Requests in order. -/
def run (st : Session) (requests : List Request) : Session := requests.foldl step st

/-- A new service, of which no logger has been got. -/
def start (w : World) : Session := ⟨(Service.make w).1, (Service.make w).2, []⟩

/-- The sink that the service owns: that of the active logger, if it came with one. -/
def owned (st : Session) : Option Sink := st.service.active.bind (·.closer)

@[simp] theorem run_nil (st : Session) : st.run [] = st := rfl

@[simp] theorem run_cons (st : Session) (req : Request) (requests : List Request) :
    st.run (req :: requests) = (st.step req).run requests := rfl

theorem run_append (st : Session) (before after : List Request) :
    st.run (before ++ after) = (st.run before).run after := List.foldl_append

end Session

variable {s : Service} {cfg : Config} {w w' w'' : World} {sink other : Sink} {st : Session}
  {l : Logger}

/-! ## Closing -/

/-- Of the files with numbers below a bound, those that are closed stay closed. -/
structure KeepsShut (bound : Nat) (w w' : World) : Prop where
  appenders : ∀ n < bound, (w.appenders.find? n).bind (·.handle) = none →
    (w'.appenders.find? n).bind (·.handle) = none
  rotators : ∀ n < bound, w.closedRotator? n ≠ some false → w'.closedRotator? n ≠ some false

/-- A sink with a number below a bound. -/
def Sink.Below (bound : Nat) (sink : Sink) : Prop :=
  match sink.base with
  | .appender n | .rotator n => n < bound
  | _ => True

/-- What closing sinks leaves alone. -/
structure Released (w w' : World) : Prop where
  next : w'.next = w.next
  clock : w'.clock = w.clock
  callStack : w'.callStack = w.callStack
  console : w'.console = w.console
  consoleLimit : w'.consoleLimit = w.consoleLimit
  files : w'.files = w.files
  levels : w'.levels = w.levels
  keySets : w'.keySets = w.keySets
  shut : ∀ bound, KeepsShut bound w w'

theorem KeepsShut.refl (bound : Nat) (w : World) : KeepsShut bound w w :=
  ⟨fun _ _ h => h, fun _ _ h => h⟩

theorem KeepsShut.trans {bound : Nat} (h : KeepsShut bound w w') (h' : KeepsShut bound w' w'') :
    KeepsShut bound w w'' where
  appenders n hn hshut := h'.appenders n hn (h.appenders n hn hshut)
  rotators n hn hshut := h'.rotators n hn (h.rotators n hn hshut)

theorem KeepsShut.idle {bound : Nat} (h : KeepsShut bound w w') (hb : sink.Below bound)
    (hidle : sink.Idle w) : sink.Idle w' := by
  unfold Sink.Idle at hidle ⊢
  unfold Sink.Below at hb
  cases hbase : sink.base with
  | appender n =>
    simp only [hbase] at hb hidle ⊢
    exact h.appenders n hb hidle
  | rotator n =>
    simp only [hbase] at hb hidle ⊢
    exact h.rotators n hb hidle
  | _ => trivial

theorem Written.keepsShut (h : Written w w') (bound : Nat) : KeepsShut bound w w' where
  appenders n _ hshut := by rwa [h.appenders]
  rotators n _ hshut := by rwa [h.rotators]

theorem Released.refl (w : World) : Released w w :=
  ⟨rfl, rfl, rfl, rfl, rfl, rfl, rfl, rfl, fun _ => .refl _ w⟩

theorem Released.countFileClose (w : World) (n : Nat) : Released w (w.countFileClose n) :=
  ⟨rfl, rfl, rfl, rfl, rfl, rfl, rfl, rfl, fun _ => ⟨fun _ _ h => h, fun _ _ h => h⟩⟩

theorem Sink.released_close (sink : Sink) (w : World) : Released w (sink.close w) := by
  induction sink with
  | console n | discard n | device n => exact .refl w
  | buffer n =>
    exact ⟨rfl, rfl, rfl, rfl, rfl, rfl, rfl, rfl, fun _ => ⟨fun _ _ h => h, fun _ _ h => h⟩⟩
  | appender n =>
    rw [Sink.close]
    split
    · exact .countFileClose w n
    · refine ⟨rfl, rfl, rfl, rfl, rfl, rfl, rfl, rfl, fun _ => ⟨fun m _ h => ?_, fun _ _ h => h⟩⟩
      rw [Table.find?_put]
      split
      · rfl
      · exact h
  | rotator n =>
    rw [Sink.close]
    split
    · exact .countFileClose w n
    · refine ⟨rfl, rfl, rfl, rfl, rfl, rfl, rfl, rfl, fun _ => ⟨fun _ _ h => h, fun m _ h => ?_⟩⟩
      rw [World.closedRotator?, Table.find?_put]
      split
      · simp [Rotator.close]
      · exact h
  | colored n inner ih => exact ih

/-- A sink that has been closed is idle. -/
theorem Sink.idle_close (sink : Sink) (w : World) : sink.Idle (sink.close w) := by
  induction sink with
  | console n | discard n | buffer n | device n => trivial
  | appender n =>
    show ((close (.appender n) w).appenders.find? n).bind (·.handle) = none
    rw [Sink.close]
    split
    · rename_i h
      rw [h]
      rfl
    · rw [Table.find?_put, if_pos rfl]
      rfl
  | rotator n =>
    show (close (.rotator n) w).closedRotator? n ≠ some false
    rw [Sink.close]
    split
    · rename_i h
      rw [World.closedRotator?, h]
      simp
    · rw [World.closedRotator?, Table.find?_put, if_pos rfl]
      simp [Rotator.close]
  | colored n inner ih => exact ih

theorem Service.released_release (previous : Option Active) (kept : Option Sink) (w : World) :
    Released w (Service.release previous kept w) := by
  unfold Service.release
  split
  · exact .refl w
  · split
    · exact .refl w
    · exact Sink.released_close _ w

/-- The sink that was owned is idle, if no other is the one that is kept. -/
theorem Service.idle_release {previous : Option Active} {kept : Option Sink}
    (hprevious : previous.bind (·.closer) = some sink) (hkept : kept ≠ some sink) (w : World) :
    sink.Idle (Service.release previous kept w) := by
  rw [Service.release, hprevious]
  simp only [if_neg hkept]
  exact sink.idle_close w

/-! ## Configuring -/

/-- The console takes nothing but numbers. -/
theorem Service.terminals_snd (s : Service) (cfg : Config) (file : Option Sink) (w : World) :
    ∃ n, w.next ≤ n ∧ (s.terminals cfg file w).2 = { w with next := n } := by
  unfold Service.terminals Service.consoleSink
  dsimp only
  split
  · split
    · exact ⟨w.next + 1 + 1, by omega, rfl⟩
    · exact ⟨w.next + 1, by omega, rfl⟩
  · exact ⟨w.next, Nat.le_refl _, rfl⟩

theorem Service.chain_snd (s : Service) (cfg : Config) (leaves : List Handler) (w : World) :
    ∃ n, w.next ≤ n ∧ (s.chain cfg leaves w).2 = { w with next := n } := by
  unfold Service.chain
  cases Handler.combine leaves with
  | none => exact ⟨w.next + 1, by omega, rfl⟩
  | some h => exact ⟨w.next, Nat.le_refl _, rfl⟩

/-- Opening a file takes a number, and touches nothing but files. -/
theorem Service.openFileSink_snd (path : String) (cfg : Config) (w : World) :
    ∃ files appenders rotators next, (Service.openFileSink path cfg w).2 =
      { w with files, appenders, rotators, next } := by
  unfold Service.openFileSink
  split
  · show ∃ files appenders rotators next, (Sink.openFile path w).2 =
      { w with files, appenders, rotators, next }
    unfold Sink.openFile
    split <;> exact ⟨_, _, _, _, rfl⟩
  · unfold Sink.openRotating
    split <;> exact ⟨_, _, _, _, rfl⟩

theorem Service.fileSink_snd (cfg : Config) (w : World) :
    ∃ files appenders rotators next, (Service.fileSink cfg w).2 =
      { w with files, appenders, rotators, next } := by
  unfold Service.fileSink
  split
  · exact ⟨_, _, _, _, rfl⟩
  · exact Service.openFileSink_snd _ cfg w
  · exact ⟨_, _, _, _, rfl⟩

/-- **Configuring.** The file is opened, a chain over the outlets is installed, the threshold set,
and then the sink owned before is closed, unless it is the very one that is owned now. -/
theorem configure_eq (s : Service) (cfg : Config) (w : World) :
    ∃ console number next, IsConsoleOf cfg w console ∧
      ((Service.fileSink cfg w).2.next ≤ number ∧ number < next) ∧
      (s.configure cfg w).2 =
        (⟨some ⟨⟨⟨number, chainOver s cfg (outlets cfg console (openedFile cfg w)) .empty⟩⟩,
            openedFile cfg w⟩, s.threshold, s.keys⟩,
          Service.release s.active (openedFile cfg w)
            (s.setLevel cfg.level { (Service.fileSink cfg w).2 with next })) := by
  obtain ⟨console, hconsole, hchain⟩ :=
    chain_terminals s cfg (openedFile cfg w) (Service.fileSink cfg w).2
  obtain ⟨n, hn, hterminals⟩ :=
    s.terminals_snd cfg (openedFile cfg w) (Service.fileSink cfg w).2
  have hinstalls : (s.configure cfg w).2 =
      let leaves := s.terminals cfg (openedFile cfg w) (Service.fileSink cfg w).2
      let built := s.chain cfg leaves.1 leaves.2
      (⟨some ⟨⟨⟨built.2.next, built.1⟩⟩, openedFile cfg w⟩, s.threshold, s.keys⟩,
        Service.release s.active (openedFile cfg w)
          (s.setLevel cfg.level { built.2 with next := built.2.next + 1 })) := rfl
  rw [hinstalls]
  dsimp only
  rw [hchain, hterminals]
  obtain ⟨m, hm, hbuilt⟩ := s.chain_snd cfg
    (s.terminals cfg (openedFile cfg w) (Service.fileSink cfg w).2).1
    { (Service.fileSink cfg w).2 with next := n }
  rw [hbuilt]
  obtain ⟨files, appenders, rotators, next, hopened⟩ := Service.fileSink_snd cfg w
  have hcolor : (Service.fileSink cfg w).2.wantsColor = w.wantsColor := by
    rw [hopened]
    rfl
  rw [IsConsoleOf, hcolor] at hconsole
  exact ⟨console, m, m + 1, hconsole, ⟨Nat.le_trans hn hm, Nat.lt_succ_self m⟩, rfl⟩

/-- Opening a file without rotation, with its outcome spelled out. -/
theorem Service.openFileSink_eq (path : String) (hsize : cfg.fileMaxSize = 0) (w : World) :
    Service.openFileSink path cfg w =
      match w.files.openAppend path with
      | (.error e, files) => (.error (.openFile path e), { w with files })
      | (.ok file, files) => (.ok (.appender w.next),
          { w with
            files, appenders := w.appenders.put w.next ⟨path, some file⟩, next := w.next + 1 }) := by
  rw [Service.openFileSink, if_pos hsize, Sink.openFile]
  rcases w.files.openAppend path with ⟨e | file, files⟩
  · rfl
  · rfl

theorem Service.shut_openFileSink (path : String) (cfg : Config) (w : World) :
    w.next ≤ (Service.openFileSink path cfg w).2.next ∧
      KeepsShut w.next w (Service.openFileSink path cfg w).2 := by
  unfold Service.openFileSink
  split
  · show w.next ≤ (Sink.openFile path w).2.next ∧ KeepsShut w.next w (Sink.openFile path w).2
    unfold Sink.openFile
    split
    · exact ⟨Nat.le_refl _, ⟨fun _ _ h => h, fun _ _ h => h⟩⟩
    · refine ⟨Nat.le_succ _, ⟨fun n hn h => ?_, fun _ _ h => h⟩⟩
      show ((w.appenders.put w.next _).find? n).bind _ = none
      rw [Table.find?_put, if_neg (Nat.ne_of_gt hn)]
      exact h
  · unfold Sink.openRotating
    split
    · exact ⟨Nat.le_refl _, ⟨fun _ _ h => h, fun _ _ h => h⟩⟩
    · refine ⟨Nat.le_succ _, ⟨fun _ _ h => h, fun n hn h => ?_⟩⟩
      show ((w.rotators.put w.next _).find? n).map _ ≠ some false
      rw [Table.find?_put, if_neg (Nat.ne_of_gt hn)]
      exact h

theorem Service.shut_fileSink (cfg : Config) (w : World) :
    w.next ≤ (Service.fileSink cfg w).2.next ∧
      KeepsShut w.next w (Service.fileSink cfg w).2 := by
  unfold Service.fileSink
  split
  · exact ⟨Nat.le_refl _, .refl _ w⟩
  · exact Service.shut_openFileSink _ cfg w
  · exact ⟨Nat.le_refl _, .refl _ w⟩

theorem Service.shut_configure (s : Service) (cfg : Config) (w : World) :
    w.next ≤ (s.configure cfg w).2.2.next ∧ KeepsShut w.next w (s.configure cfg w).2.2 := by
  obtain ⟨console, number, next, -, ⟨hnumber, hnext⟩, heq⟩ := configure_eq s cfg w
  obtain ⟨hle, hopened⟩ := Service.shut_fileSink cfg w
  have hreleased := Service.released_release s.active (openedFile cfg w)
    (s.setLevel cfg.level { (Service.fileSink cfg w).2 with next })
  have hset : KeepsShut w.next (Service.fileSink cfg w).2
      (s.setLevel cfg.level { (Service.fileSink cfg w).2 with next }) :=
    ⟨fun _ _ h => h, fun _ _ h => h⟩
  rw [heq]
  refine ⟨?_, hopened.trans (hset.trans (hreleased.shut _))⟩
  show w.next ≤ (Service.release _ _ _).next
  rw [hreleased.next]
  exact Nat.le_trans hle (Nat.le_trans hnumber (Nat.le_of_lt hnext))

/-! ## Requests -/

/-- A session once its service has been configured: what the service has then, and a world that
differs from that in which the file was opened in nothing that matters for files. -/
theorem Session.step_configure (st : Session) (cfg : Config) :
    ∃ console number w, IsConsole console ∧ (Service.fileSink cfg st.world).2.next ≤ w.next ∧
      w.appenders = (Service.fileSink cfg st.world).2.appenders ∧
      w.files = (Service.fileSink cfg st.world).2.files ∧
      st.step (.configure cfg) =
        ⟨⟨some ⟨⟨⟨number, chainOver st.service cfg
            (outlets cfg console (openedFile cfg st.world)) .empty⟩⟩, openedFile cfg st.world⟩,
          st.service.threshold, st.service.keys⟩,
          Service.release st.service.active (openedFile cfg st.world) w, st.loggers⟩ := by
  obtain ⟨console, number, next, hconsole, ⟨hnumber, hnext⟩, heq⟩ :=
    configure_eq st.service cfg st.world
  refine ⟨console, number, st.service.setLevel cfg.level
    { (Service.fileSink cfg st.world).2 with next }, hconsole.isConsole,
    Nat.le_trans hnumber (Nat.le_of_lt hnext), rfl, rfl, ?_⟩
  rw [Session.step, heq]

theorem Session.owned_configure (st : Session) (cfg : Config) :
    (st.step (.configure cfg)).owned = openedFile cfg st.world := by
  obtain ⟨console, number, w, -, -, -, -, heq⟩ := st.step_configure cfg
  rw [heq]
  rfl

theorem Session.files_configure (st : Session) (cfg : Config) :
    (st.step (.configure cfg)).world.files = (Service.fileSink cfg st.world).2.files := by
  obtain ⟨console, number, w, -, -, -, hfiles, heq⟩ := st.step_configure cfg
  rw [heq, ← hfiles]
  exact (Service.released_release _ _ _).files

/-- On a service that is not configured, getting the logger configures it first. -/
theorem Session.step_fetch_of_none (h : st.service.active = none) :
    ∃ a, (st.step (.configure {})).service.active = some a ∧
      st.step .fetch = { st.step (.configure {}) with loggers := st.loggers ++ [a.logger] } := by
  obtain ⟨console, number, next, -, -, heq⟩ := configure_eq st.service {} st.world
  obtain ⟨s, w, hs⟩ : ∃ s w, (st.service.configure {} st.world).2 = (s, w) := ⟨_, _, rfl⟩
  have hstep : st.step (.configure {}) = { st with service := s, world := w } := by
    simp only [Session.step, hs]
  have hactive : ∃ a, s.active = some a := by
    rw [hs] at heq
    exact ⟨_, congrArg (·.1.active) heq⟩
  obtain ⟨a, ha⟩ := hactive
  refine ⟨a, by rw [hstep]; exact ha, ?_⟩
  rw [hstep]
  simp only [Session.step, Service.logger, h, hs, ha]

theorem Session.step_fetch_of_some {a : Active} (h : st.service.active = some a) :
    st.step .fetch = { st with loggers := st.loggers ++ [a.logger] } := by
  simp only [Session.step, Service.logger, h]

theorem Session.step_reinstall {i : Nat} (h : st.loggers[i]? = some l) :
    st.step (.reinstall i) = st.step (.install l) := by
  simp only [Session.step, h]

/-- Deriving a logger takes a number at most. -/
theorem Logger.derive_snd (l : Logger) (d : Derivation) (w : World) :
    ∃ n, w.next ≤ n ∧ (l.derive d w).2 = { w with next := n } := by
  have hsame : ∃ n, w.next ≤ n ∧ w = { w with next := n } := ⟨w.next, Nat.le_refl _, rfl⟩
  have hmade : ∀ h, ∃ n, w.next ≤ n ∧ (Stage.make h w).2 = { w with next := n } :=
    fun _ => ⟨w.next + 1, Nat.le_succ _, rfl⟩
  cases d with
  | attrs attrs =>
    rw [Logger.derive, Logger.bind]
    split
    · exact hsame
    · exact hmade (l.stage.handler.derive (.attrs attrs))
  | group name =>
    rw [Logger.derive, Logger.enter]
    split
    · exact hsame
    · exact hmade (l.stage.handler.derive (.group name))

/-- No request opens again what is closed. -/
theorem Session.shut_step (st : Session) (req : Request) :
    st.world.next ≤ (st.step req).world.next ∧
      KeepsShut st.world.next st.world (st.step req).world := by
  have hrefl : st.world.next ≤ st.world.next ∧ KeepsShut st.world.next st.world st.world :=
    ⟨Nat.le_refl _, .refl _ _⟩
  have hreleased : ∀ {w'}, Released st.world w' →
      st.world.next ≤ w'.next ∧ KeepsShut st.world.next st.world w' :=
    fun h => ⟨Nat.le_of_eq h.next.symm, h.shut _⟩
  have hinstall : ∀ l, st.world.next ≤ (st.step (.install l)).world.next ∧
      KeepsShut st.world.next st.world (st.step (.install l)).world :=
    fun l => hreleased (Service.released_release st.service.active none st.world)
  cases req with
  | configure cfg => exact Service.shut_configure st.service cfg st.world
  | reset =>
    have h := Service.released_release st.service.active none
      ((st.service.setLevel .info st.world).setKeys st.service.keys .empty)
    have hset : KeepsShut st.world.next st.world
        ((st.service.setLevel .info st.world).setKeys st.service.keys .empty) :=
      ⟨fun _ _ h => h, fun _ _ h => h⟩
    exact ⟨Nat.le_of_eq h.next.symm, hset.trans (h.shut _)⟩
  | install l => exact hinstall l
  | reinstall i =>
    cases hl : st.loggers[i]? with
    | none => simpa only [Session.step, hl] using hrefl
    | some l =>
      rw [Session.step_reinstall hl]
      exact hinstall l
  | setLevel level => exact ⟨Nat.le_refl _, ⟨fun _ _ h => h, fun _ _ h => h⟩⟩
  | setKeys keys => exact ⟨Nat.le_refl _, ⟨fun _ _ h => h, fun _ _ h => h⟩⟩
  | setClock clock => exact ⟨Nat.le_refl _, ⟨fun _ _ h => h, fun _ _ h => h⟩⟩
  | fetch =>
    cases ha : st.service.active with
    | some a =>
      rw [Session.step_fetch_of_some ha]
      exact hrefl
    | none =>
      obtain ⟨a, -, hfetch⟩ := Session.step_fetch_of_none ha
      rw [hfetch]
      exact Service.shut_configure st.service {} st.world
  | derive i d =>
    cases hl : st.loggers[i]? with
    | none => simpa only [Session.step, hl] using hrefl
    | some l =>
      obtain ⟨n, hn, hsnd⟩ := l.derive_snd d st.world
      simp only [Session.step, hl, hsnd]
      exact ⟨hn, ⟨fun _ _ h => h, fun _ _ h => h⟩⟩
  | log i make =>
    cases hl : st.loggers[i]? with
    | none => simpa only [Session.step, hl] using hrefl
    | some l =>
      have h := l.written_logRecord (make st.world.now) st.world
      simp only [Session.step, hl]
      exact ⟨Nat.le_of_eq h.next.symm, h.keepsShut _⟩

theorem Sink.Below.mono {m n : Nat} (h : sink.Below m) (hle : m ≤ n) : sink.Below n := by
  unfold Sink.Below at h ⊢
  split at h
  · exact Nat.lt_of_lt_of_le h hle
  · exact Nat.lt_of_lt_of_le h hle
  · trivial

/-- **Closed for good.** A sink that is closed stays so, whatever is requested. -/
theorem Session.idle_run (st : Session) (requests : List Request)
    (hb : sink.Below st.world.next) (hidle : sink.Idle st.world) :
    sink.Idle (st.run requests).world := by
  induction requests generalizing st with
  | nil => exact hidle
  | cons req requests ih =>
    obtain ⟨hle, hshut⟩ := st.shut_step req
    exact ih (st.step req) (hb.mono hle) (hshut.idle hb hidle)

end LogPipeline
