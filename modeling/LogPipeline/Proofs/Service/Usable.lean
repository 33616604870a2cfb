import LogPipeline.Proofs.Handler.Gate
import LogPipeline.Proofs.Rotation.History
import LogPipeline.Proofs.Service.Session

/-!
# Configuring leaves a usable logger

Configuring a service installs a logger in every case, also where the file cannot be opened
(`configure_usable`). Its records go in one write each to the outlets of the configuration, of which
there is always one. A failure is that of opening the file and of nothing else; it loses the file,
and no file that was there.
-/

namespace LogPipeline

/-- The write of a record's line to an outlet. -/
def Outlet.write (addSource : Bool) (r : Record) (o : Outlet) : SinkWrite :=
  ⟨o.sink, o.encoding.line r addSource r.attrs⟩

/-- The sink for files that a configuration asks for, where `opened` is what opening a path gives:
the one supplied, or else the file of the path, if it could be opened. -/
def Config.file (cfg : Config) (opened : String → Except SetupError Sink) : Option Sink :=
  match cfg.fileWriter, cfg.filePath with
  | some sink, _ => some sink
  | none, some path => (opened path).toOption
  | none, none => none

variable {s : Service} {cfg : Config} {w : World} {r : Record} {os : List Outlet}
  {e : SetupError} {path : String}

/-! ## The writes of a chain over outlets -/

theorem writesAll_leaves (threshold : Nat) (addSource : Bool) (os : List Outlet) (r : Record)
    (w : World) : Handler.writesAll (os.map (Outlet.leaf threshold addSource)) r w =
      if w.allows threshold r.level then os.map (Outlet.write addSource r) else [] := by
  induction os generalizing w with
  | nil => simp [Handler.writesAll]
  | cons o os ih =>
    -- the write of the first leaf leaves the threshold of the others
    have hsame : ((o.leaf threshold addSource).handle r w).2.allows threshold r.level =
        w.allows threshold r.level :=
      ((o.leaf threshold addSource).written_handle r w).allows r.level ⟨o.sink, threshold⟩
    rw [List.map_cons, Handler.writesAll, ih, hsame, Outlet.leaf, Handler.writes]
    split
    · rw [List.map_cons, Outlet.write, Formatter.line, Scope.empty, resolve_empty]
      rfl
    · rfl

theorem writes_over (hs : List Handler) (r : Record) (w : World) :
    (Handler.over hs).writes r w = Handler.writesAll hs r w := by
  unfold Handler.over
  split
  · simp [Handler.writesAll]
  · rw [Handler.writes]

theorem writes_attachStack (next : Handler) (cfg : Config) (r : Record) (w : World) :
    (next.attachStack cfg.stackLevel cfg.stackMaxBytes).writes r w =
      next.writes (r.append (stackAttrs cfg r.level w.callStack)) w := by
  unfold Handler.attachStack stackAttrs
  cases cfg.stackLevel with
  | none => simp [Record.append]
  | some least =>
    simp only [Handler.writes, StackRule.augment, StackRule.capture, Config.stackCap]
    split
    · simp [Record.append]
    · rfl

/-- The record as a chain without derivations hands it to its outlets. -/
def Service.prepared (s : Service) (cfg : Config) (r : Record) (w : World) : Record :=
  { r with attrs := redactAttrs (w.keys s.keys) r.attrs ++ stackAttrs cfg r.level w.callStack }

theorem writes_chainOver (s : Service) (cfg : Config) (os : List Outlet) (r : Record) (w : World) :
    (chainOver s cfg os .empty).writes r w =
      if w.allows s.threshold r.level then
        os.map (Outlet.write cfg.addSource (s.prepared cfg r w))
      else [] := by
  have hredacted : redacted (w.keys s.keys) .empty r =
      { r with attrs := redactAttrs (w.keys s.keys) r.attrs } := by
    rw [redacted_eq, Scope.empty, resolve_empty]
  rw [chainOver, Handler.writes, hredacted, writes_attachStack, writes_over, writesAll_leaves]
  rfl

/-! ## Opening the file -/

theorem openedFile_eq (cfg : Config) (w : World) :
    openedFile cfg w = cfg.file fun path => (Service.openFileSink path cfg w).1 := by
  cases hwriter : cfg.fileWriter with
  | some sink => simp only [openedFile, Service.fileSink, Config.file, hwriter]
  | none =>
    cases hpath : cfg.filePath with
    | none => simp only [openedFile, Service.fileSink, Config.file, hwriter, hpath]
    | some path =>
      simp only [openedFile, Service.fileSink, Config.file, hwriter, hpath]
      cases (Service.openFileSink path cfg w).1 <;> rfl

/-- Configuring fails exactly if a file is to be opened and cannot be. -/
theorem configure_error_iff : (s.configure cfg w).1 = .error e ↔
    cfg.fileWriter = none ∧
      ∃ path, cfg.filePath = some path ∧ (Service.openFileSink path cfg w).1 = .error e := by
  have hresult : (s.configure cfg w).1 = (Service.fileSink cfg w).1.map fun _ => () := rfl
  rw [hresult, Service.fileSink]
  split
  · rename_i hwriter
    simp [hwriter, Except.map]
  · rename_i path hwriter hpath
    dsimp only
    cases hopen : (Service.openFileSink path cfg w).1 with
    | error e' => simp [hwriter, hpath, hopen, Except.map]
    | ok sink => simp [hwriter, hpath, hopen, Except.map]
  · rename_i hwriter hpath
    simp [hpath, Except.map]

/-- A file that cannot be opened leaves everything as it was but for directories on the way to it.
-/
theorem openFileSink_error (hopen : (Service.openFileSink path cfg w).1 = .error e) :
    ∃ files, (Service.openFileSink path cfg w).2 = { w with files } ∧ w.files.Keeps files := by
  by_cases hsize : cfg.fileMaxSize = 0
  · rw [Service.openFileSink_eq path hsize] at hopen ⊢
    cases hfile : w.files.openAppend path with
    | mk result files =>
      cases result with
      | ok n => simp [hfile] at hopen
      | error cause =>
        obtain rfl := FileSystem.openAppend_error hfile
        exact ⟨_, rfl, .refl _⟩
  · rw [Service.openFileSink, if_neg hsize, Sink.openRotating] at hopen ⊢
    cases hfile : Rotator.create path cfg.fileMaxSize cfg.fileMaxBackups w.files with
    | mk result files =>
      cases result with
      | ok rotator => simp [hfile] at hopen
      | error cause => exact ⟨files, rfl, Rotator.keeps_create_error hfile⟩

/-! ## The configured service -/

variable {s' : Service} {w' : World}

theorem configure_settings (h : (s.configure cfg w).2 = (s', w')) :
    s'.isConfigured = true ∧ s'.level w' = cfg.level ∧ s'.keys = s.keys ∧
      w'.keys s'.keys = w.keys s.keys := by
  obtain ⟨console, number, next, -, -, heq⟩ := configure_eq s cfg w
  obtain ⟨files, appenders, rotators, number', hopened⟩ := Service.fileSink_snd cfg w
  obtain ⟨rfl, rfl⟩ := Prod.mk.inj (heq.symm.trans h)
  have hreleased := Service.released_release s.active (openedFile cfg w)
    (s.setLevel cfg.level { (Service.fileSink cfg w).2 with next })
  refine ⟨rfl, ?_, rfl, ?_⟩
  · rw [Service.level, World.level, hreleased.levels]
    exact (World.level_setLevel _ _ _ _).trans (if_pos rfl)
  · rw [World.keys, hreleased.keySets, hopened]
    rfl

/-- The logger that a configured service gives out, and what it writes. -/
theorem configure_logger (h : (s.configure cfg w).2 = (s', w')) :
    ∃ console, IsConsoleOf cfg w console ∧ ∀ now, ∃ l : Logger, s'.logger now = (l, s', now) ∧
      w.next ≤ l.stage.number ∧ l.handler.NoRecorder ∧
      ∀ r, l.emissions r now =
        if s'.level now ≤ r.level then
          (outlets cfg console (openedFile cfg w)).map
            (Outlet.write cfg.addSource (s'.prepared cfg r now))
        else [] := by
  obtain ⟨console, number, next, hconsole, ⟨hnumber, -⟩, heq⟩ := configure_eq s cfg w
  obtain ⟨rfl, -⟩ := Prod.mk.inj (heq.symm.trans h)
  have hnext := Nat.le_trans (Service.shut_fileSink cfg w).1 hnumber
  refine ⟨console, hconsole, fun now =>
    ⟨_, rfl, hnext, noRecorder_chainOver s cfg _ .empty, fun r => ?_⟩⟩
  rw [Logger.emissions, Logger.enabled]
  show (if (chainOver s cfg _ .empty).enabled now r.level then
    (chainOver s cfg _ .empty).writes r now else []) = _
  rw [enabled_chainOver (outlets_ne_nil _ _ _), writes_chainOver, World.allows, Service.level]
  by_cases hpass : now.level s.threshold ≤ r.level
  · simp only [hpass, decide_true, if_true]
    rfl
  · simp only [hpass, decide_false, if_false, Bool.false_eq_true]

/-- What is left of a configuration whose file cannot be opened. -/
theorem configure_failure (hfailed : (s.configure cfg w).1 = .error e)
    (h : (s.configure cfg w).2 = (s', w')) :
    openedFile cfg w = none ∧ w.files.Keeps w'.files ∧
      (∃ next, w' = Service.release s.active none
        (s.setLevel cfg.level { w with files := w'.files, next })) ∧
      ∀ sink, s.active.bind (·.closer) = some sink → sink.Idle w' := by
  obtain ⟨hwriter, path, hpath, hopen⟩ := configure_error_iff.mp hfailed
  obtain ⟨files, hfiles, hkeeps⟩ := openFileSink_error hopen
  have hnone : openedFile cfg w = none := by
    rw [openedFile_eq, Config.file, hwriter, hpath]
    dsimp only
    rw [hopen]
    rfl
  have hworld : (Service.fileSink cfg w).2 = { w with files } := by
    rw [Service.fileSink, hwriter, hpath]
    exact hfiles
  obtain ⟨console, number, next, -, -, heq⟩ := configure_eq s cfg w
  rw [hnone, hworld] at heq
  obtain ⟨-, rfl⟩ := Prod.mk.inj (heq.symm.trans h)
  have hsame := (Service.released_release s.active none
    (s.setLevel cfg.level { w with files, next })).files
  refine ⟨hnone, ?_, ⟨next, ?_⟩, fun sink hsink => Service.idle_release hsink (by simp) _⟩
  · rw [hsame]
    exact hkeeps
  · rw [hsame]
    rfl

/-- **Configuring leaves a usable logger.** Whatever a service, its surroundings and a configuration
are: once it has been configured, the service has the configured threshold, the keys it had, and a
new logger, which it gives out without any further change. What is logged through that, at any time
and at a level that passes the threshold, leads to one write for each outlet of the configuration
and to nothing else: the console if it is asked for, and then the sink for files that was supplied
or opened; if there is neither, the console gets plain text. So there always is an outlet.
Configuring fails exactly if a file is to be opened and cannot be. Then the new logger is without a
file, the sink owned before is closed, and every file that was there is still there and holds what
it held. -/
theorem configure_usable (s : Service) (cfg : Config) (w : World) :
    let result := (s.configure cfg w).1
    let s' := (s.configure cfg w).2.1
    let w' := (s.configure cfg w).2.2
    let opened (path : String) := (Service.openFileSink path cfg w).1
    (s'.isConfigured = true ∧ s'.level w' = cfg.level ∧ s'.keys = s.keys ∧
      w'.keys s'.keys = w.keys s.keys) ∧
    (∃ console, IsConsoleOf cfg w console ∧
      outlets cfg console (cfg.file opened) ≠ [] ∧
      ∀ now, ∃ l : Logger, s'.logger now = (l, s', now) ∧ w.next ≤ l.stage.number ∧
        (∀ r, l.emissions r now =
          if s'.level now ≤ r.level then
            (outlets cfg console (cfg.file opened)).map
              (Outlet.write cfg.addSource (s'.prepared cfg r now))
          else []) ∧
        (∀ r, l.logRecord r now = (perform (l.emissions r now) now).2) ∧
        ∀ level message attrs source, l.log level message attrs source now =
          l.logRecord ⟨now.now, level, message, attrs, some source⟩ now) ∧
    (∀ e, result = .error e ↔
      cfg.fileWriter = none ∧ ∃ path, cfg.filePath = some path ∧ opened path = .error e) ∧
    ∀ e, result = .error e →
      cfg.file opened = none ∧
      (∀ path bytes, w.files.read path = .ok bytes → w'.files.read path = .ok bytes) ∧
      (∀ n, w'.files.content n = w.files.content n) ∧
      (∃ next, w' =
        let replaced := s.setLevel cfg.level { w with files := w'.files, next }
        match s.active.bind (·.closer) with
        | some sink => sink.close replaced
        | none => replaced) ∧
      ∀ sink, s.active.bind (·.closer) = some sink → sink.Idle w' := by
  intro result s' w' opened
  have hfile : cfg.file opened = openedFile cfg w := (openedFile_eq cfg w).symm
  have hstate : (s.configure cfg w).2 = (s', w') := rfl
  obtain ⟨console, hconsole, hlogger⟩ := configure_logger hstate
  refine ⟨configure_settings rfl, ⟨console, hconsole, outlets_ne_nil _ _ _, fun now => ?_⟩,
    fun e => configure_error_iff, fun e hfailed => ?_⟩
  · obtain ⟨l, hgiven, hnumber, hl, hemissions⟩ := hlogger now
    rw [hfile]
    exact ⟨l, hgiven, hnumber, hemissions, fun r => l.logRecord_eq_perform hl r now,
      fun level message attrs source => l.log_eq_logRecord level message attrs source now⟩
  · obtain ⟨hnone, hkeeps, ⟨next, hclosed⟩, hidle⟩ := configure_failure hfailed rfl
    refine ⟨hfile.trans hnone, fun path bytes => hkeeps.read, hkeeps.content, ⟨next, ?_⟩, hidle⟩
    refine hclosed.trans ?_
    rw [Service.release]
    cases s.active.bind (·.closer) with
    | none => rfl
    | some sink => rfl

/-- A file in the place of the directory of a rotating file, on a service that owns a buffer. -/
theorem configure_usable_blocked :
    let w : World :=
      { World.initial 0 "" with files := (FileSystem.empty.write "logs" [0x61]).2 }
    let s : Service := ⟨some ⟨⟨0, .fanout []⟩, some (.buffer 5)⟩, 0, 1⟩
    let cfg : Config := { console := false, filePath := some "logs/app.log", fileMaxSize := 9 }
    let w' := (s.configure cfg w).2.2
    (s.configure cfg w).1 = .error (.createDir "logs" (.os .alreadyExists)) ∧
      w'.files.read "logs" = .ok [0x61] ∧ w'.closes (.buffer 5) = 1 := by
  intro w s cfg w'
  have hfailed : (s.configure cfg w).1 = .error (.createDir "logs" (.os .alreadyExists)) := rfl
  obtain ⟨-, hread, -, ⟨next, hclosed⟩, -⟩ := (configure_usable s cfg w).2.2.2 _ hfailed
  refine ⟨hfailed, hread "logs" [0x61] rfl, ?_⟩
  rw [show w' = _ from hclosed]
  rfl

end LogPipeline
