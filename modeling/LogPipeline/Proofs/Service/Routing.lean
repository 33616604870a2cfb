import LogPipeline.Proofs.Service.Register

/-!
# Where records go

Each file gets what the register says that it is owed, and nothing else (`files_follow`). The
invariant is `Tracks`: a logger of the configuration in force writes to the sink that the service
owns, and that sink is the open file of the target; all the sinks of any other logger are idle, and
whatever is requested they stay so.
-/

namespace LogPipeline

/-- Nothing that goes through the logger reaches a file, now or later. -/
def Logger.Dormant (l : Logger) (w : World) : Prop :=
  ∀ sink ∈ l.handler.sinks, sink.Idle w ∧ sink.Below w.next

/-- The sink that a service owns is the open file at the target; without a target it is no file. -/
def Held (target : Option Location) (owned : Option Sink) (w : World) : Prop :=
  match target with
  | none => ∀ sink, owned = some sink → sink.Fileless
  | some l => ∃ n m path, owned = some (.appender n) ∧ n < w.next ∧
      w.appenders.find? n = some ⟨path, some m⟩ ∧ w.files.node? l = some (.file m)

/-- What the register has of a logger is right: a logger of the configuration in force is derived
from one over the outlets of that configuration, and any other is dormant. -/
structure Register.Covers (g : Register) (st : Session) (origin : Option Origin) (l : Logger) :
    Prop where
  known : ∀ o, origin = some o → o.configuration < g.made
  live : ∀ c o, g.live? origin = some (c, o) → ∃ (console : Sink) (root : Logger), IsConsole console ∧
    root.handler = chainOver st.service c.cfg (outlets c.cfg console st.owned) .empty ∧
    root.Derived o.path l
  stale : g.live? origin = none → l.Dormant st.world

/-- The register is right about a session that began with the given files. -/
structure Register.Tracks (files : FileSystem) (g : Register) (st : Session) : Prop where
  sound : st.world.files.Sound
  loggers : List.Forall₂ (g.Covers st) g.loggers st.loggers
  active : ∀ a, st.service.active = some a → g.Covers st g.active a.logger
  held : ∀ c, g.inForce = some c → c.number < g.made ∧ Held c.target st.owned st.world
  disowned : g.inForce = none → st.owned = none
  content : ∀ l, st.world.files.contentAt l = files.contentAt l ++ g.linesTo l

variable {w w' : World} {sink : Sink} {l l' : Logger} {cfg : Config} {st st' : Session}
  {g g' : Register} {files : FileSystem} {origin : Option Origin} {req : Request}

/-! ## Loggers that reach no file -/

mutual

theorem Handler.sinks_derive (d : Derivation) : ∀ h : Handler, (h.derive d).sinks = h.sinks
  | .format f => rfl
  | .recorder r => rfl
  | .stack rule next => by
    rw [Handler.derive, Handler.sinks, Handler.sinks]
    exact Handler.sinks_derive d next
  | .redaction keys scope next => by
    rw [Handler.derive, Handler.sinks, Handler.sinks]
  | .fanout children => by
    rw [Handler.derive, Handler.sinks, Handler.sinks]
    exact Handler.sinksAll_deriveAll d children

theorem Handler.sinksAll_deriveAll (d : Derivation) : ∀ hs : List Handler,
    Handler.sinksAll (Handler.deriveAll d hs) = Handler.sinksAll hs
  | [] => rfl
  | h :: rest => by
    rw [Handler.deriveAll, Handler.sinksAll, Handler.sinksAll, Handler.sinks_derive d h,
      Handler.sinksAll_deriveAll d rest]

end

theorem Logger.sinks_derive (l : Logger) (d : Derivation) (w : World) :
    (l.derive d w).1.handler.sinks = l.handler.sinks := by
  cases d with
  | attrs attrs =>
    rw [Logger.derive, Logger.bind]
    split
    · rfl
    · exact Handler.sinks_derive (.attrs attrs) l.handler
  | group name =>
    rw [Logger.derive, Logger.enter]
    split
    · rfl
    · exact Handler.sinks_derive (.group name) l.handler

theorem Sink.Fileless.below (h : sink.Fileless) (bound : Nat) : sink.Below bound := by
  unfold Sink.Fileless at h
  unfold Sink.Below
  cases hbase : sink.base with
  | appender n | rotator n =>
    rw [hbase] at h
    exact h.elim
  | _ => trivial

theorem Logger.Dormant.of_fileless (h : ∀ sink ∈ l.handler.sinks, sink.Fileless) (w : World) :
    l.Dormant w := fun sink hs => ⟨(h sink hs).idle w, (h sink hs).below w.next⟩

theorem Logger.Dormant.mono (h : l.Dormant w) (hnext : w.next ≤ w'.next)
    (hshut : KeepsShut w.next w w') : l.Dormant w' := fun sink hs =>
  ⟨hshut.idle (h sink hs).2 (h sink hs).1, (h sink hs).2.mono hnext⟩

theorem Logger.Dormant.derive (h : l.Dormant w) (d : Derivation) : (l.derive d w).1.Dormant w := by
  rwa [Logger.Dormant, l.sinks_derive d w]

/-! ## Opening the file of a configuration -/

theorem Held.mono {target : Option Location} {owned : Option Sink} (h : Held target owned w)
    (hnext : w.next ≤ w'.next)
    (happenders : ∀ n < w.next, owned = some (.appender n) →
      w'.appenders.find? n = w.appenders.find? n)
    (hnode : ∀ l x, w.files.node? l = some x → w'.files.node? l = some x) :
    Held target owned w' := by
  cases target with
  | none => exact h
  | some l =>
    obtain ⟨n, m, path, howned, hn, hfind, hfile⟩ := h
    exact ⟨n, m, path, howned, Nat.lt_of_lt_of_le hn hnext, (happenders n hn howned).trans hfind,
      hnode l _ hfile⟩

/-- What is owned is no file, or an opened one. -/
theorem Held.cases {target : Option Location} {owned : Option Sink} (h : Held target owned w)
    (hsink : owned = some sink) : sink.Fileless ∨ ∃ n < w.next, sink = .appender n := by
  cases target with
  | none => exact .inl (h sink hsink)
  | some l =>
    obtain ⟨n, m, path, howned, hn, -, -⟩ := h
    exact .inr ⟨n, hn, Option.some.inj (hsink.symm.trans howned)⟩

/-- Opening the file of a configuration: its sink holds the target, no content changes, and a file
that is opened has a new number. -/
theorem held_fileSink (hs : w.files.Sound) (hplain : (Request.configure cfg).Plain) :
    Held (cfg.target? w.files) (openedFile cfg w) (Service.fileSink cfg w).2 ∧
      (Service.fileSink cfg w).2.files.Sound ∧
      (∀ l x, w.files.node? l = some x → (Service.fileSink cfg w).2.files.node? l = some x) ∧
      (∀ l, (Service.fileSink cfg w).2.files.contentAt l = w.files.contentAt l) ∧
      ∀ n, openedFile cfg w = some (.appender n) → w.next ≤ n := by
  obtain ⟨hsize, hsupplied⟩ := hplain
  unfold Config.target? openedFile Service.fileSink
  cases hwriter : cfg.fileWriter with
  | some sink =>
    refine ⟨fun other ho => ?_, hs, fun _ _ hx => hx, fun _ => rfl, fun n hn => ?_⟩
    · exact Option.some.inj ho ▸ hsupplied sink hwriter
    · exact absurd (hsupplied sink hwriter) (Option.some.inj hn ▸ id)
  | none =>
    cases hpath : cfg.filePath with
    | none =>
      exact ⟨fun other ho => absurd ho (by simp), hs, fun _ _ hx => hx, fun _ => rfl,
        fun n hn => absurd hn (by simp)⟩
    | some path =>
      obtain ⟨hsound, hkept, hcontent⟩ := FileSystem.openAppend_grows hs path
      simp only [Service.openFileSink_eq path hsize]
      cases hopen : w.files.openAppend path with
      | mk result fs =>
        rw [hopen] at hsound hkept hcontent
        cases result with
        | error e =>
          exact ⟨fun other ho => absurd ho (by simp [Except.map]), hsound, hkept, hcontent,
            fun n hn => absurd hn (by simp [Except.map])⟩
        | ok number =>
          refine ⟨?_, hsound, hkept, hcontent, ?_⟩
          · -- the path leads to the file once it has been opened
            obtain ⟨l, hl⟩ := FileSystem.find_of_openAppend hopen
            obtain ⟨hfind, hnode⟩ := hl fs fun _ _ hx => hx
            simp only [hfind, Except.toOption, Option.map_some]
            exact ⟨w.next, number, path, by simp [Except.map], Nat.lt_succ_self _, by simp, hnode⟩
          · intro n hn
            obtain rfl : w.next = n := by simpa [Except.map] using hn
            exact Nat.le_refl _

theorem Register.live?_eq_some {c : InForce} {o : Origin} :
    g.live? origin = some (c, o) ↔
      g.inForce = some c ∧ origin = some o ∧ o.configuration = c.number := by
  unfold live?
  cases g.inForce with
  | none => simp
  | some c' =>
    cases origin with
    | none => simp
    | some o' =>
      simp only [Option.some.injEq, Option.ite_none_right_eq_some, Prod.mk.injEq]
      constructor
      · rintro ⟨hnumber, rfl, rfl⟩
        exact ⟨rfl, rfl, hnumber⟩
      · rintro ⟨rfl, rfl, hnumber⟩
        exact ⟨hnumber, rfl, rfl⟩

theorem Register.live?_congr (h : g'.inForce = g.inForce) : g'.live? origin = g.live? origin := by
  unfold live?
  rw [h]

/-- Nothing is undone that a register relies on: no sink is opened or closed and no name is lost. -/
structure Undisturbed (w w' : World) : Prop where
  next : w.next ≤ w'.next
  shut : KeepsShut w.next w w'
  appenders : w'.appenders = w.appenders
  sound : w.files.Sound → w'.files.Sound
  kept : ∀ l x, w.files.node? l = some x → w'.files.node? l = some x

theorem Undisturbed.of_eq (hnext : w.next ≤ w'.next) (happenders : w'.appenders = w.appenders)
    (hrotators : w'.rotators = w.rotators) (hfiles : w'.files = w.files) : Undisturbed w w' where
  next := hnext
  shut := ⟨fun n _ hn => by rwa [happenders],
    fun n _ hn => by rwa [World.closedRotator?, hrotators]⟩
  appenders := happenders
  sound hs := hfiles ▸ hs
  kept l x hx := hfiles ▸ hx

theorem Register.Covers.frame (h : g.Covers st origin l) (hmade : g'.made = g.made)
    (hforce : g'.inForce = g.inForce) (hservice : st'.service = st.service)
    (hnext : st.world.next ≤ st'.world.next)
    (hshut : KeepsShut st.world.next st.world st'.world) : g'.Covers st' origin l where
  known o ho := hmade ▸ h.known o ho
  live c o hlive := by
    rw [Session.owned, hservice]
    exact h.live c o ((live?_congr hforce).symm.trans hlive)
  stale hstale := (h.stale ((live?_congr hforce).symm.trans hstale)).mono hnext hshut

theorem Register.Tracks.frame (h : g.Tracks files st) (hw : Undisturbed st.world w)
    {lines : List (Location × Bytes)}
    (hcontent : ∀ l, w.files.contentAt l = files.contentAt l ++ linesTo { g with lines } l) :
    Register.Tracks files { g with lines } { st with world := w } where
  sound := hw.sound h.sound
  loggers := h.loggers.imp fun _ _ hc => hc.frame rfl rfl rfl hw.next hw.shut
  active a ha := (h.active a ha).frame rfl rfl rfl hw.next hw.shut
  held c hc := ⟨(h.held c hc).1,
    (h.held c hc).2.mono hw.next (fun n _ _ => by rw [hw.appenders]) hw.kept⟩
  disowned := h.disowned
  content := hcontent

/-- A logger that is covered is got. -/
theorem Register.Tracks.got (h : g.Tracks files st) (hc : g.Covers st origin l) :
    (g.got origin).Tracks files { st with loggers := st.loggers ++ [l] } where
  sound := h.sound
  loggers := by
    refine List.rel_append (h.loggers.imp fun _ _ hc' => ?_) (.cons ?_ .nil)
    · exact hc'.frame rfl rfl rfl (Nat.le_refl _) (.refl _ _)
    · exact hc.frame rfl rfl rfl (Nat.le_refl _) (.refl _ _)
  active a ha := (h.active a ha).frame rfl rfl rfl (Nat.le_refl _) (.refl _ _)
  held := h.held
  disowned := h.disowned
  content := h.content

/-! ## Logging -/

theorem files_broadcast_outlets {console : Sink} (hconsole : IsConsole console) {n m : Nat}
    {path : String} (hfind : w.appenders.find? n = some ⟨path, some m⟩) (r : Record) :
    (broadcast cfg.addSource r (outlets cfg console (some (.appender n))) w).files =
      w.files.append m ((encodingOf cfg.jsonFile).line r cfg.addSource r.attrs) := by
  have hfile : ∀ w' : World, w'.appenders = w.appenders → w'.files = w.files → ∀ bytes,
      (Sink.write (.appender n) bytes w').2.files = w.files.append m bytes := by
    intro w' happenders hfiles bytes
    simp only [Sink.write, happenders, hfind, Option.bind_some, hfiles]
  rw [outlets, broadcast, List.foldl_append]
  by_cases hcfg : cfg.console = true
  · rw [if_pos hcfg]
    apply hfile
    · exact (console.written_write _ w).appenders
    · exact (hconsole.fileless.idle w).files_write _
  · rw [if_neg hcfg]
    exact hfile w rfl rfl _

/-- What logging does to the files: either nothing is owed and nothing happens, or one line is owed,
and it is put behind the file that it is owed to. -/
theorem Register.Tracks.files_logRecord (h : g.Tracks files st) (hc : g.Covers st origin l)
    (r : Record) :
    (g.owed origin st.service r st.world = [] ∧
      (l.logRecord r st.world).files = st.world.files) ∨
    ∃ target m bytes, g.owed origin st.service r st.world = [(target, bytes)] ∧
      st.world.files.node? target = some (.file m) ∧
      (l.logRecord r st.world).files = st.world.files.append m bytes := by
  unfold owed
  cases hlive : g.live? origin with
  | none =>
    left
    exact ⟨rfl, Logger.files_logRecord (fun sink hs => (hc.stale hlive sink hs).1) r⟩
  | some p =>
    obtain ⟨c, o⟩ := p
    obtain ⟨console, root, hconsole, hroot, hderived⟩ := hc.live c o hlive
    have hheld := (h.held c (live?_eq_some.mp hlive).1).2
    have hlog := logRecord_chainOver (outlets_ne_nil _ _ _) (derived_chainOver hroot hderived) r
      st.world
    rw [← Service.level] at hlog
    by_cases hlevel : r.level < st.service.level st.world
    · left
      refine ⟨if_pos hlevel, ?_⟩
      rw [hlog, if_pos hlevel]
    · simp only [if_neg hlevel]
      cases htarget : c.target with
      | none =>
        left
        refine ⟨rfl, Logger.files_logRecord (fun sink hs => ?_) r⟩
        rw [derived_chainOver hroot hderived, sinks_chainOver] at hs
        obtain ⟨outlet, ho, rfl⟩ := List.mem_map.mp hs
        rw [htarget] at hheld
        rcases mem_outlets ho with hsink | hsink
        · exact (hsink ▸ hconsole.fileless).idle _
        · exact (hheld _ hsink).idle _
      | some target =>
        right
        rw [htarget] at hheld
        obtain ⟨n, m, path, howned, hn, hfind, hnode⟩ := hheld
        refine ⟨target, m, _, rfl, hnode, ?_⟩
        rw [hlog, if_neg hlevel, howned, files_broadcast_outlets hconsole hfind]
        rfl

/-- What is logged through a logger that is covered is owed and delivered. -/
theorem Register.Tracks.log (h : g.Tracks files st) (hc : g.Covers st origin l) (r : Record) :
    Undisturbed st.world (l.logRecord r st.world) ∧
      Register.Tracks files { g with lines := g.lines ++ g.owed origin st.service r st.world }
        { st with world := l.logRecord r st.world } := by
  have hwritten := l.written_logRecord r st.world
  have hrest : Undisturbed st.world (l.logRecord r st.world) ∧
      ∀ m, (l.logRecord r st.world).files.contentAt m = files.contentAt m ++
        linesTo { g with lines := g.lines ++ g.owed origin st.service r st.world } m := by
    obtain ⟨howed, hfiles⟩ | ⟨target, number, bytes, howed, hnode, hfiles⟩ := h.files_logRecord hc r
    · refine ⟨⟨Nat.le_of_eq hwritten.next.symm, hwritten.keepsShut _, hwritten.appenders,
        fun hs => hfiles ▸ hs, fun m x hx => hfiles ▸ hx⟩, fun m => ?_⟩
      rw [howed, List.append_nil, hfiles]
      exact h.content m
    · refine ⟨⟨Nat.le_of_eq hwritten.next.symm, hwritten.keepsShut _, hwritten.appenders,
        fun hs => hfiles ▸ hs.append number bytes, fun m x hx => hfiles ▸ hx⟩, fun m => ?_⟩
      rw [howed, hfiles, FileSystem.contentAt_append h.sound hnode, h.content m, linesTo, linesTo,
        List.flatMap_append, List.append_assoc]
      simp
  exact ⟨hrest.1, h.frame hrest.1 hrest.2⟩

/-! ## The end of a configuration -/

theorem Sink.Fileless.appenders_close (h : sink.Fileless) (w : World) :
    (sink.close w).appenders = w.appenders := by
  induction sink with
  | console n | discard n | buffer n | device n => rfl
  | appender n | rotator n => exact h.elim
  | colored n inner ih => exact ih h

theorem Service.appenders_release {previous : Option Active} {kept : Option Sink} {n : Nat}
    (h : ∀ sink, previous.bind (·.closer) = some sink →
      sink.Fileless ∨ ∃ m, sink = .appender m ∧ m ≠ n) (w : World) :
    (release previous kept w).appenders.find? n = w.appenders.find? n := by
  rw [release]
  split
  · rfl
  · rename_i sink hsink
    split
    · rfl
    · rcases h sink hsink with hfileless | ⟨m, rfl, hne⟩
      · rw [hfileless.appenders_close]
      · rw [Sink.close]
        split
        · rfl
        · rw [Table.find?_put, if_neg hne]
          rfl

theorem Register.Tracks.owned_cases (h : g.Tracks files st) (hsink : st.owned = some sink) :
    sink.Fileless ∨ ∃ n < st.world.next, sink = .appender n := by
  cases hforce : g.inForce with
  | none => exact absurd ((h.disowned hforce).symm.trans hsink) (by simp)
  | some c => exact (h.held c hforce).2.cases hsink

/-- Once the sink that a service owned is idle, no logger that it gave out reaches a file. -/
theorem Register.Tracks.superseded (h : g.Tracks files st) (hnext : st.world.next ≤ st'.world.next)
    (hshut : KeepsShut st.world.next st.world st'.world)
    (hidle : ∀ n, st.owned = some (.appender n) → Sink.Idle st'.world (.appender n))
    (hmade : g.made ≤ g'.made) (hforce : ∀ c, g'.inForce = some c → g.made ≤ c.number)
    (hc : g.Covers st origin l) : g'.Covers st' origin l where
  known o ho := Nat.lt_of_lt_of_le (hc.known o ho) hmade
  live c o hlive := by
    obtain ⟨hc', ho, hnumber⟩ := live?_eq_some.mp hlive
    have hold := hc.known o ho
    have hnew := hforce c hc'
    omega
  stale _ := by
    cases hlive : g.live? origin with
    | none => exact (hc.stale hlive).mono hnext hshut
    | some p =>
      obtain ⟨c, o⟩ := p
      obtain ⟨console, root, hconsole, hroot, hderived⟩ := hc.live c o hlive
      intro other hother
      rw [derived_chainOver hroot hderived, sinks_chainOver] at hother
      obtain ⟨outlet, ho, rfl⟩ := List.mem_map.mp hother
      rcases mem_outlets ho with hsink | hsink
      · have hfileless := hsink ▸ hconsole.fileless
        exact ⟨hfileless.idle _, hfileless.below _⟩
      · rcases h.owned_cases hsink with hfileless | ⟨n, hn, heq⟩
        · exact ⟨hfileless.idle _, hfileless.below _⟩
        · rw [heq] at hsink ⊢
          exact ⟨hidle n hsink, Nat.lt_of_lt_of_le hn hnext⟩

/-- Another logger is installed, or none: the service owns nothing then. -/
theorem Register.Tracks.replaced (h : g.Tracks files st) (active : Option Active) (w : World)
    (hw : Undisturbed st.world w) (hfiles : w.files = st.world.files)
    (hst : st' = { st with
      service := { st.service with active }, world := Service.release st.service.active none w })
    (hunowned : active.bind (·.closer) = none)
    (hactive : ∀ a, active = some a → (g.replaced origin).Covers st' origin a.logger) :
    (g.replaced origin).Tracks files st' := by
  have hreleased := Service.released_release st.service.active none w
  have hnext : st.world.next ≤ st'.world.next := by
    rw [hst, hreleased.next]
    exact hw.next
  have hshut : KeepsShut st.world.next st.world st'.world := by
    rw [hst]
    exact hw.shut.trans (hreleased.shut _)
  have hidle : ∀ n, st.owned = some (.appender n) → Sink.Idle st'.world (.appender n) := by
    intro n hn
    rw [hst]
    exact Service.idle_release hn (by simp) w
  have hold : ∀ {origin' l}, g.Covers st origin' l → (g.replaced origin).Covers st' origin' l :=
    fun hc => h.superseded hnext hshut hidle (Nat.le_refl _) (by rintro c ⟨⟩) hc
  have hsame : st'.world.files = st.world.files := by
    rw [hst]
    exact hreleased.files.trans hfiles
  have hloggers : st'.loggers = st.loggers := by rw [hst]
  have howned : st'.owned = none := by
    rw [hst]
    exact hunowned
  refine ⟨?_, ?_, fun a ha => ?_, fun c hc => ?_, fun _ => howned, fun m => ?_⟩
  · rw [hsame]
    exact h.sound
  · rw [hloggers]
    exact h.loggers.imp fun _ _ hc => hold hc
  · exact hactive a (by rw [hst] at ha; exact ha)
  · cases hc
  · rw [hsame]
    exact h.content m

/-- Configuring closes the file that was open before, also where the new one is the same file. -/
theorem Register.Tracks.idle_configure (h : g.Tracks files st)
    (hplain : (Request.configure cfg).Plain) {n : Nat} (hn : st.owned = some (.appender n)) :
    Sink.Idle (st.step (.configure cfg)).world (.appender n) := by
  obtain ⟨-, -, -, -, hfresh⟩ := held_fileSink h.sound hplain
  obtain ⟨console, number, w, -, -, -, -, heq⟩ := st.step_configure cfg
  have hold : n < st.world.next := by
    rcases h.owned_cases hn with hfileless | ⟨m, hm, heq⟩
    · exact hfileless.elim
    · exact Sink.appender.inj heq ▸ hm
  have hother : openedFile cfg st.world ≠ some (.appender n) := fun hsame =>
    absurd (hfresh n hsame) (Nat.not_le.mpr hold)
  rw [heq]
  exact Service.idle_release hn hother w

theorem Register.Tracks.held_configure (h : g.Tracks files st)
    (hplain : (Request.configure cfg).Plain) :
    Held (cfg.target? st.world.files) (openedFile cfg st.world)
      (st.step (.configure cfg)).world := by
  obtain ⟨hheld, -, -, -, hfresh⟩ := held_fileSink h.sound hplain
  obtain ⟨console, number, w, -, hnext, happenders, hfiles, heq⟩ := st.step_configure cfg
  have hreleased := Service.released_release st.service.active (openedFile cfg st.world) w
  rw [heq]
  refine hheld.mono ?_ (fun n _ hn => ?_) (fun m x hx => ?_)
  · rw [hreleased.next]
    exact hnext
  · -- what is closed has an older number than what has been opened
    have holder : ∀ sink, st.service.active.bind (·.closer) = some sink →
        sink.Fileless ∨ ∃ m, sink = .appender m ∧ m ≠ n := by
      intro sink hsink
      rcases h.owned_cases hsink with hfileless | ⟨m, hm, rfl⟩
      · exact .inl hfileless
      · exact .inr ⟨m, rfl, Nat.ne_of_lt (Nat.lt_of_lt_of_le hm (hfresh n hn))⟩
    rw [Service.appenders_release holder, happenders]
  · rw [hreleased.files, hfiles]
    exact hx

/-- The logger that is installed with a configuration is of that configuration. -/
theorem Register.covers_configured {a : Active} (fs : FileSystem)
    (ha : (st.step (.configure cfg)).service.active = some a) :
    (g.configured cfg fs).Covers (st.step (.configure cfg)) (some ⟨g.made, []⟩) a.logger where
  known := by
    rintro o ⟨⟩
    exact Nat.lt_succ_self _
  live c o hlive := by
    obtain ⟨hc, ho, -⟩ := live?_eq_some.mp hlive
    obtain rfl := Option.some.inj hc
    obtain rfl := Option.some.inj ho
    obtain ⟨console, number, w, hconsole, -, -, -, heq⟩ := st.step_configure cfg
    rw [heq] at ha ⊢
    obtain rfl := Option.some.inj ha
    exact ⟨console, _, hconsole, rfl, .refl⟩
  stale hstale := by simp [live?, Register.configured] at hstale

/-- A configuration comes into force. -/
theorem Register.Tracks.configured (h : g.Tracks files st)
    (hplain : (Request.configure cfg).Plain) :
    (g.configured cfg st.world.files).Tracks files (st.step (.configure cfg)) ∧
      ∀ m x, st.world.files.node? m = some x →
        (st.step (.configure cfg)).world.files.node? m = some x := by
  obtain ⟨-, hsound, hkept, hcontent, -⟩ := held_fileSink h.sound hplain
  obtain ⟨hnext, hshut⟩ := Service.shut_configure st.service cfg st.world
  have hnewer : ∀ c, (g.configured cfg st.world.files).inForce = some c → g.made ≤ c.number := by
    rintro c ⟨⟩
    exact Nat.le_refl _
  rw [← st.files_configure cfg] at hsound hkept hcontent
  refine ⟨⟨hsound, ?_, fun a ha => covers_configured _ ha, ?_, fun hnone => ?_, fun m => ?_⟩, hkept⟩
  · exact h.loggers.imp fun _ _ hc => h.superseded hnext hshut
      (fun _ hn => h.idle_configure hplain hn) (Nat.le_succ _) hnewer hc
  · rintro c ⟨⟩
    rw [st.owned_configure]
    exact ⟨Nat.lt_succ_self _, h.held_configure hplain⟩
  · exact absurd hnone (by simp [Register.configured])
  · rw [hcontent]
    exact h.content m

/-! ## Runs -/

/-- Loggers stand at the same places in the register and in the session. -/
theorem Register.Tracks.logger? (h : g.Tracks files st) (i : Nat) :
    g.loggers[i]? = none ∧ st.loggers[i]? = none ∨
      ∃ origin l, g.loggers[i]? = some origin ∧ st.loggers[i]? = some l ∧ g.Covers st origin l :=
  getElem?_of_forall₂ h.loggers i

theorem Register.Covers.derive (hc : g.Covers st origin l) (d : Derivation) :
    g.Covers st (origin.map fun o => { o with path := o.path ++ [d] }) (l.derive d st.world).1 where
  known o ho := by
    obtain ⟨o', ho', rfl⟩ := Option.map_eq_some_iff.mp ho
    exact hc.known o' ho'
  live c o hlive := by
    obtain ⟨hforce, ho, hnumber⟩ := live?_eq_some.mp hlive
    obtain ⟨o', ho', rfl⟩ := Option.map_eq_some_iff.mp ho
    obtain ⟨console, root, hconsole, hroot, hderived⟩ :=
      hc.live c o' (live?_eq_some.mpr ⟨hforce, ho', hnumber⟩)
    refine ⟨console, root, hconsole, hroot, ?_⟩
    cases d with
    | attrs attrs => exact hderived.bind attrs st.world
    | group name => exact hderived.enter name st.world
  stale hstale := by
    refine (hc.stale ?_).derive d
    cases hlive : g.live? origin with
    | none => rfl
    | some p =>
      obtain ⟨c, o⟩ := p
      obtain ⟨hforce, ho, hnumber⟩ := live?_eq_some.mp hlive
      have hderived : g.live? (origin.map fun o => { o with path := o.path ++ [d] }) =
          some (c, { o with path := o.path ++ [d] }) :=
        live?_eq_some.mpr ⟨hforce, by rw [ho]; rfl, hnumber⟩
      rw [hstale] at hderived
      cases hderived

/-- One request keeps the register right, and loses no name of a file. -/
theorem Register.Tracks.step (h : g.Tracks files st) (hplain : req.Plain) :
    (g.note st req).Tracks files (st.step req) ∧
      ∀ m x, st.world.files.node? m = some x → (st.step req).world.files.node? m = some x := by
  -- what a request changes beside loggers and lines
  have hset : ∀ w : World, w.next = st.world.next → w.appenders = st.world.appenders →
      w.rotators = st.world.rotators → w.files = st.world.files →
      g.Tracks files { st with world := w } ∧
        ∀ m x, st.world.files.node? m = some x → w.files.node? m = some x := by
    intro w hnext happenders hrotators hfiles
    have hw := Undisturbed.of_eq (Nat.le_of_eq hnext.symm) happenders hrotators hfiles
    exact ⟨h.frame hw fun m => hfiles ▸ h.content m, hw.kept⟩
  have hinstall : ∀ origin l, (g.replaced origin).Covers (st.step (.install l)) origin l →
      (g.replaced origin).Tracks files (st.step (.install l)) ∧
        ∀ m x, st.world.files.node? m = some x →
          (st.step (.install l)).world.files.node? m = some x := by
    intro origin l hc
    refine ⟨h.replaced (some ⟨l, none⟩) st.world (.of_eq (Nat.le_refl _) rfl rfl rfl) rfl rfl rfl ?_,
      fun m x hx => ?_⟩
    · rintro a ⟨⟩
      exact hc
    · show (Service.release _ _ _).files.node? m = _
      rw [(Service.released_release _ _ _).files]
      exact hx
  cases req with
  | configure cfg => exact h.configured hplain
  | reset =>
    refine ⟨h.replaced none ((st.service.setLevel .info st.world).setKeys st.service.keys .empty)
      (.of_eq (Nat.le_refl _) rfl rfl rfl) rfl rfl rfl (by rintro a ⟨⟩), fun m x hx => ?_⟩
    show (Service.release _ _ _).files.node? m = _
    rw [(Service.released_release _ _ _).files]
    exact hx
  | install l =>
    refine hinstall none l ⟨by rintro o ⟨⟩, fun c o hlive => ?_, fun _ => .of_fileless hplain _⟩
    exact absurd (live?_eq_some.mp hlive).1 (by rintro ⟨⟩)
  | reinstall i =>
    obtain ⟨horigin, hlogger⟩ | ⟨origin, l, horigin, hlogger, hc⟩ := h.logger? i
    · simp only [note, Session.step, horigin, hlogger]
      exact ⟨h, fun _ _ hx => hx⟩
    · rw [Session.step_reinstall hlogger, note, horigin]
      refine hinstall origin l (h.superseded ?_ ?_ ?_ (Nat.le_refl _) (by rintro c ⟨⟩) hc)
      · exact Nat.le_of_eq (Service.released_release _ _ _).next.symm
      · exact (Service.released_release _ _ _).shut _
      · exact fun n hn => Service.idle_release hn (by simp) st.world
  | setLevel level => exact hset _ rfl rfl rfl rfl
  | setKeys keys => exact hset _ rfl rfl rfl rfl
  | setClock clock => exact hset _ rfl rfl rfl rfl
  | fetch =>
    cases ha : st.service.active with
    | some a =>
      rw [Session.step_fetch_of_some ha, note, Service.isConfigured, ha, Option.isSome_some,
        if_pos rfl]
      exact ⟨h.got (h.active a ha), fun _ _ hx => hx⟩
    | none =>
      obtain ⟨a, hactive, hfetch⟩ := Session.step_fetch_of_none ha
      have hdefault : (Request.configure {}).Plain := ⟨rfl, by rintro sink ⟨⟩⟩
      obtain ⟨htracks, hkept⟩ := h.configured hdefault
      rw [hfetch, note, Service.isConfigured, ha]
      exact ⟨htracks.got (htracks.active a hactive), hkept⟩
  | derive i d =>
    obtain ⟨horigin, hlogger⟩ | ⟨origin, l, horigin, hlogger, hc⟩ := h.logger? i
    · simp only [note, Session.step, horigin, hlogger]
      exact ⟨h, fun _ _ hx => hx⟩
    · obtain ⟨n, hn, hworld⟩ := l.derive_snd d st.world
      have hw : Undisturbed st.world { st.world with next := n } := .of_eq hn rfl rfl rfl
      simp only [note, Session.step, horigin, hlogger, hworld]
      refine ⟨(h.frame hw h.content).got ?_, fun _ _ hx => hx⟩
      exact (hc.derive d).frame rfl rfl rfl hw.next hw.shut
  | log i make =>
    obtain ⟨horigin, hlogger⟩ | ⟨origin, l, horigin, hlogger, hc⟩ := h.logger? i
    · simp only [note, Session.step, horigin, hlogger]
      exact ⟨h, fun _ _ hx => hx⟩
    · obtain ⟨hw, htracks⟩ := h.log hc (make st.world.now)
      simp only [note, Session.step, horigin, hlogger]
      exact ⟨htracks, hw.kept⟩

theorem Register.Tracks.run (h : g.Tracks files st) {requests : List Request}
    (hplain : ∀ req ∈ requests, req.Plain) :
    (g.follow st requests).Tracks files (st.run requests) ∧
      ∀ m x, st.world.files.node? m = some x →
        (st.run requests).world.files.node? m = some x := by
  induction requests generalizing g st with
  | nil => exact ⟨h, fun _ _ hx => hx⟩
  | cons req requests ih =>
    obtain ⟨hstep, hkept⟩ := h.step (hplain req (by simp))
    obtain ⟨hrun, hlater⟩ := ih hstep fun req hr => hplain req (by simp [hr])
    exact ⟨hrun, fun m x hx => hlater m x (hkept m x hx)⟩

theorem Register.follow_append (g : Register) (st : Session) (before after : List Request) :
    g.follow st (before ++ after) = (g.follow st before).follow (st.run before) after := by
  induction before generalizing g st with
  | nil => rfl
  | cons req before ih => exact ih (g.note st req) (st.step req)

end LogPipeline
