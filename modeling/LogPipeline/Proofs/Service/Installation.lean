import LogPipeline.Proofs.Service.Session

/-!
# A logger installed in its own place

Installing a logger closes the sink that the service owns, also where the logger is one that the
service gave out and writes to that very sink. From then on nothing that goes through the logger, or
through one derived from it, reaches a file (`install_derived_silent`); the console goes on as before.
-/

namespace LogPipeline

/-- The request leaves the active logger in its place. -/
def Request.KeepsActive : Request → Prop
  | .configure _ | .reset | .install _ | .reinstall _ => False
  | .setLevel _ | .setKeys _ | .setClock _ | .fetch | .derive _ _ | .log _ _ => True

/-- After the logger has been installed, what is logged through the service goes to the files to
which it would have gone through the logger just before. -/
def Session.KeepsFiles (st : Session) (l : Logger) : Prop :=
  ∀ r : Record, l.enabled r.level st.world = true →
    let after := st.step (.install l)
    ∀ path, ((after.service.logger after.world).1.logRecord r after.world).files.read path =
      (l.logRecord r st.world).files.read path

/-- A configuration that writes to one file and not to the console. -/
def fileOnly : Config := { console := false, filePath := some "app.log" }

/-- Installing the logger of a service in its own place ends what the service writes to the file. -/
theorem not_keepsFiles_own_logger :
    let st := (Session.start (.initial 0 "")).step (.configure fileOnly)
    openedFile fileOnly (Session.start (.initial 0 "")).world = some (.appender 2) ∧
      ¬ st.KeepsFiles (st.service.logger st.world).1 := by
  refine ⟨rfl, fun h => ?_⟩
  have hread := congrArg Except.toOption
    (h ⟨⟨0, 0⟩, .info, "hello", [], none⟩ (by decide +kernel) "app.log")
  revert hread
  decide +kernel

/-- The console has taken the same in both states, and takes as much more. -/
structure SameConsole (w w' : World) : Prop where
  taken : w'.console = w.console
  limit : w'.consoleLimit = w.consoleLimit

/-- An opened file, rotating or not. -/
def Sink.IsFile (sink : Sink) : Prop := ∃ n, sink = .appender n ∨ sink = .rotator n

variable {s : Service} {cfg : Config} {w w' : World} {sink : Sink} {st : Session} {a : Active}
  {l l' l'' : Logger} {ds es : List Derivation} {os : List Outlet} {r : Record}

/-! ## The console -/

/-- What the console makes of a write depends on nothing else. -/
theorem SameConsole.writeConsole (h : SameConsole w w') (bytes : Bytes) :
    SameConsole (w.writeConsole bytes).2 (w'.writeConsole bytes).2 where
  taken := by simp only [World.writeConsole, World.consoleTakes, h.taken, h.limit]
  limit := by simp only [World.writeConsole, h.limit]

theorem SameConsole.write (hsame : SameConsole w w') (h : IsConsole sink) (bytes : Bytes) :
    SameConsole (sink.write bytes w).2 (sink.write bytes w').2 := by
  obtain ⟨n, rfl | ⟨m, rfl⟩⟩ := h
  · exact hsame.writeConsole bytes
  · simp only [Sink.write]
    cases Color.paint? bytes with
    | none => exact hsame.writeConsole bytes
    | some painted => exact hsame.writeConsole painted

theorem Sink.IsFile.sameConsole_write (h : sink.IsFile) (bytes : Bytes) (w : World) :
    SameConsole w (sink.write bytes w).2 := by
  obtain ⟨n, rfl | rfl⟩ := h
  · rw [Sink.write]
    split <;> exact ⟨rfl, rfl⟩
  · rw [Sink.write]
    split <;> exact ⟨rfl, rfl⟩

theorem SameConsole.broadcast (hsame : SameConsole w w')
    (h : ∀ o ∈ os, IsConsole o.sink ∨ o.sink.IsFile) (addSource : Bool) (r : Record) :
    SameConsole (broadcast addSource r os w) (broadcast addSource r os w') := by
  induction os generalizing w w' with
  | nil => exact hsame
  | cons o os ih =>
    refine ih ?_ fun o ho => h o (by simp [ho])
    rcases h o (by simp) with hconsole | hfile
    · exact hsame.write hconsole _
    · have hleft := hfile.sameConsole_write (o.encoding.line r addSource r.attrs) w
      have hright := hfile.sameConsole_write (o.encoding.line r addSource r.attrs) w'
      exact ⟨hright.taken.trans (hsame.taken.trans hleft.taken.symm),
        hright.limit.trans (hsame.limit.trans hleft.limit.symm)⟩

/-! ## Opened files -/

/-- A sink for files that was not supplied has been opened, and its number is taken. -/
theorem isFile_of_opened (hwriter : cfg.fileWriter = none)
    (hopened : openedFile cfg w = some sink) :
    sink.IsFile ∧ sink.Below (Service.fileSink cfg w).2.next := by
  rw [openedFile, Service.fileSink, hwriter] at hopened
  rw [Service.fileSink, hwriter]
  cases hpath : cfg.filePath with
  | none => simp [hpath] at hopened
  | some path =>
    simp only [hpath] at hopened ⊢
    by_cases hsize : cfg.fileMaxSize = 0
    · rw [Service.openFileSink_eq path hsize] at hopened ⊢
      cases hopen : w.files.openAppend path with
      | mk result fs =>
        cases result with
        | error e => simp [hopen, Except.map] at hopened
        | ok file =>
          obtain rfl : Sink.appender w.next = sink := by simpa [hopen, Except.map] using hopened
          exact ⟨⟨_, .inl rfl⟩, Nat.lt_succ_self _⟩
    · rw [Service.openFileSink, if_neg hsize, Sink.openRotating] at hopened ⊢
      cases hopen : Rotator.create path cfg.fileMaxSize cfg.fileMaxBackups w.files with
      | mk result fs =>
        cases result with
        | error e => simp [hopen, Except.map] at hopened
        | ok file =>
          obtain rfl : Sink.rotator w.next = sink := by
            simpa [hopen, World.fresh, Except.map] using hopened
          exact ⟨⟨_, .inr rfl⟩, Nat.lt_succ_self _⟩

/-! ## The active logger -/

theorem Session.service_step (h : st.service.active = some a) {req : Request}
    (hreq : req.KeepsActive) : (st.step req).service = st.service := by
  cases req with
  | configure cfg => exact hreq.elim
  | reset => exact hreq.elim
  | install l => exact hreq.elim
  | reinstall i => exact hreq.elim
  | setLevel level => rfl
  | setKeys keys => rfl
  | setClock clock => rfl
  | fetch => rw [Session.step_fetch_of_some h]
  | derive i d =>
    rw [Session.step]
    split <;> rfl
  | log i make =>
    rw [Session.step]
    split <;> rfl

theorem Session.service_run (h : st.service.active = some a) {requests : List Request}
    (hkeeps : ∀ req ∈ requests, req.KeepsActive) : (st.run requests).service = st.service := by
  induction requests generalizing st with
  | nil => rfl
  | cons req requests ih =>
    have hstep := Session.service_step h (hkeeps req (by simp))
    rw [Session.run_cons, ih (hstep ▸ h) (fun req hr => hkeeps req (by simp [hr])), hstep]

theorem Session.next_le_run (st : Session) (requests : List Request) :
    st.world.next ≤ (st.run requests).world.next := by
  induction requests generalizing st with
  | nil => exact Nat.le_refl _
  | cons req requests ih => exact Nat.le_trans (st.shut_step req).1 (ih (st.step req))

/-- What holds while a configuration with an opened file is active: the service owns the file, and
its logger is a chain over the console and the file. -/
theorem Session.active_configuration {start : Session} {before during : List Request}
    (hwriter : cfg.fileWriter = none) (hopened : openedFile cfg (start.run before).world = some sink)
    (hduring : ∀ req ∈ during, req.KeepsActive)
    (hst : st = ((start.run before).step (.configure cfg)).run during) :
    sink.IsFile ∧ sink.Below st.world.next ∧ st.owned = some sink ∧
      ∃ console, IsConsole console ∧ (st.service.logger st.world).1.handler =
        chainOver (start.run before).service cfg (outlets cfg console (some sink)) .empty := by
  obtain ⟨hfile, hbelow⟩ := isFile_of_opened hwriter hopened
  obtain ⟨first, hfirst⟩ : ∃ first, first = (start.run before).step (.configure cfg) := ⟨_, rfl⟩
  rw [← hfirst] at hst
  obtain ⟨console, number, w, hconsole, hnext, -, -, heq⟩ := (start.run before).step_configure cfg
  rw [← hfirst, hopened] at heq
  have hactive : first.service.active = some _ := congrArg (·.service.active) heq
  have hkept : st.service = first.service := hst ▸ Session.service_run hactive hduring
  have hfirstBelow : sink.Below first.world.next := by
    rw [heq]
    show sink.Below (Service.release _ _ w).next
    rw [(Service.released_release _ _ w).next]
    exact hbelow.mono hnext
  refine ⟨hfile, hfirstBelow.mono (hst ▸ first.next_le_run during), ?_, console, hconsole, ?_⟩
  · rw [Session.owned, hkept, hactive]
    rfl
  · rw [hkept]
    simp only [Service.logger, hactive]
    rfl

/-- Installing a logger closes the owned sink for good. -/
theorem Session.idle_install (howned : st.owned = some sink) (hbelow : sink.Below st.world.next)
    (l : Logger) (later : List Request) : sink.Idle ((st.step (.install l)).run later).world := by
  have hreleased : Released st.world (st.step (.install l)).world :=
    Service.released_release st.service.active none st.world
  apply Session.idle_run
  · rw [hreleased.next]
    exact hbelow
  · exact Service.idle_release howned (by simp) st.world

/-- **Installed in its own place.** A service is configured with a file that it opens, rotating or
not, and goes on with that configuration. Once a logger derived from the active one is installed, it
is the service's logger until that is replaced, and the file is closed for good: whatever else is
requested, a record logged through it or through loggers derived from it changes no file. The console
gets what it would have got through the logger just before. -/
theorem install_derived_silent {start : Session} {before during : List Request}
    (hwriter : cfg.fileWriter = none) (hopened : openedFile cfg (start.run before).world = some sink)
    (hduring : ∀ req ∈ during, req.KeepsActive)
    (hst : st = ((start.run before).step (.configure cfg)).run during)
    (hl : (st.service.logger st.world).1.Derived ds l) :
    (∀ later, (∀ req ∈ later, req.KeepsActive) →
      (((st.step (.install l)).run later).service.logger
        ((st.step (.install l)).run later).world).1 = l) ∧
    (∀ later, sink.Idle ((st.step (.install l)).run later).world) ∧
    (∀ later es l' r, l.Derived es l' →
      (l'.logRecord r ((st.step (.install l)).run later).world).files =
        ((st.step (.install l)).run later).world.files) ∧
    ∀ r, (l.logRecord r (st.step (.install l)).world).console = (l.logRecord r st.world).console := by
  obtain ⟨hfile, hbelow, howned, console, hconsole, hhandler⟩ :=
    Session.active_configuration hwriter hopened hduring hst
  have hidle := Session.idle_install howned hbelow l
  have hsinks : ∀ o ∈ outlets cfg console (some sink), IsConsole o.sink ∨ o.sink = sink := by
    intro o ho
    rcases mem_outlets ho with h | h
    · exact .inl (h ▸ hconsole)
    · exact .inr (Option.some.inj h).symm
  refine ⟨fun later hlater => ?_, hidle, fun later es l' r hl' => ?_, fun r => ?_⟩
  · have hinstalled : (st.step (.install l)).service.active = some ⟨l, none⟩ := rfl
    rw [Session.service_run hinstalled hlater]
    simp only [Service.logger, hinstalled]
  · apply Logger.files_logRecord
    intro other hother
    rw [derived_chainOver hhandler (hl.trans hl'), sinks_chainOver] at hother
    obtain ⟨o, ho, rfl⟩ := List.mem_map.mp hother
    rcases hsinks o ho with hc | hs
    · exact hc.fileless.idle _
    · exact hs ▸ hidle later
  · have hchain := derived_chainOver hhandler hl
    have hne := outlets_ne_nil cfg console (some sink)
    have hreleased : Released st.world (st.step (.install l)).world :=
      Service.released_release st.service.active none st.world
    have hlevel : (st.step (.install l)).world.level (start.run before).service.threshold =
        st.world.level (start.run before).service.threshold := by
      rw [World.level, hreleased.levels, World.level]
    have hkeys : (st.step (.install l)).world.keys (start.run before).service.keys =
        st.world.keys (start.run before).service.keys := by
      rw [World.keys, hreleased.keySets, World.keys]
    rw [logRecord_chainOver hne hchain, logRecord_chainOver hne hchain, hlevel, hkeys,
      hreleased.callStack]
    split
    · exact hreleased.console
    · have hsame : SameConsole st.world (st.step (.install l)).world :=
        ⟨hreleased.console, hreleased.consoleLimit⟩
      refine (hsame.broadcast (fun o ho => ?_) _ _).taken
      rcases hsinks o ho with hc | hs
      · exact .inl hc
      · exact .inr (hs ▸ hfile)

theorem install_derived_silent_bound :
    let st := (Session.start (.initial 0 "")).step (.configure fileOnly)
    let l := ((st.service.logger st.world).1.bind [⟨"k", .str "v"⟩] st.world).1
    openedFile fileOnly (Session.start (.initial 0 "")).world = some (.appender 2) ∧
    (∀ later, (∀ req ∈ later, req.KeepsActive) →
      (((st.step (.install l)).run later).service.logger
        ((st.step (.install l)).run later).world).1 = l) ∧
    (∀ later, Sink.Idle ((st.step (.install l)).run later).world (.appender 2)) ∧
    (∀ later es l' r, l.Derived es l' →
      (l'.logRecord r ((st.step (.install l)).run later).world).files =
        ((st.step (.install l)).run later).world.files) ∧
    ∀ r, (l.logRecord r (st.step (.install l)).world).console =
      (l.logRecord r st.world).console := by
  have hopened : openedFile fileOnly ((Session.start (.initial 0 "")).run []).world =
      some (.appender 2) := by rfl
  have hst : (Session.start (.initial 0 "")).step (.configure fileOnly) =
      (((Session.start (.initial 0 "")).run []).step (.configure fileOnly)).run [] := rfl
  exact ⟨hopened, install_derived_silent rfl hopened (by simp) hst (.bind _ _ .refl)⟩

end LogPipeline
