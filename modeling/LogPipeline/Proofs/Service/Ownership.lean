import LogPipeline.Proofs.Service.Session

/-!
# Owned sinks are closed once

A service owns the sink of its active configuration, whether it opened it or was given it. It closes
a sink at the very requests at which it stops owning it (`closed_once_per_ownership`), so that over
any session the sink is closed as often as its ownership ended.

`Session.closings` are the calls that a request makes to close sinks, read off the code. They are all
there is: what else a request does is what it does to a service that owns nothing (`step_world`), and
the buffers and opened files, whose calls are counted, count no other.
-/

namespace LogPipeline

/-- The sinks closed when the active logger is replaced. -/
def Service.releases (previous : Option Active) (kept : Option Sink) : List Sink :=
  match previous.bind (·.closer) with
  | none => []
  | some sink => if kept = some sink then [] else [sink]

/-- The sink at the end of a sink, if its closings are counted. -/
def Sink.closable? (sink : Sink) : Option Closable :=
  match sink.base with
  | .buffer n => some (.buffer n)
  | .appender n | .rotator n => some (.file n)
  | _ => none

/-- Closes sinks in order. -/
def Sink.closeAll (sinks : List Sink) (w : World) : World :=
  sinks.foldl (fun w sink => sink.close w) w

namespace Session

/-- The sinks that the service closes at a request, in order. -/
def closings (st : Session) : Request → List Sink
  | .configure cfg => Service.releases st.service.active (openedFile cfg st.world)
  | .reset | .install _ => Service.releases st.service.active none
  | .reinstall i => if i < st.loggers.length then Service.releases st.service.active none else []
  | _ => []

/-- The sinks that the service closes in a session, in order. -/
def closed (st : Session) : List Request → List Sink
  | [] => []
  | req :: rest => st.closings req ++ (st.step req).closed rest

/-- How often in a session the service goes from owning a sink to not owning it. -/
def disownings (st : Session) (sink : Sink) : List Request → Nat
  | [] => 0
  | req :: rest =>
    (if st.owned = some sink ∧ (st.step req).owned ≠ some sink then 1 else 0) +
      (st.step req).disownings sink rest

/-- The same session, with a service that owns nothing. -/
def disowned (st : Session) : Session :=
  { st with service :=
      { st.service with active := st.service.active.map fun a => { a with closer := none } } }

end Session

variable {st : Session} {sink : Sink} {w : World} {cfg : Config}

/-! ## One request -/

theorem Service.release_eq (previous : Option Active) (kept : Option Sink) (w : World) :
    Service.release previous kept w = Sink.closeAll (Service.releases previous kept) w := by
  unfold Service.release Service.releases
  cases previous.bind (·.closer) with
  | none => rfl
  | some sink =>
    dsimp only
    split <;> rfl

theorem Service.count_releases (previous : Option Active) (kept : Option Sink) (sink : Sink) :
    (Service.releases previous kept).count sink =
      if previous.bind (·.closer) = some sink ∧ kept ≠ some sink then 1 else 0 := by
  unfold Service.releases
  cases previous.bind (·.closer) with
  | none => simp
  | some owned =>
    by_cases howned : owned = sink
    · subst howned
      by_cases hkept : kept = some owned <;> simp [hkept]
    · have hcount : [owned].count sink = 0 :=
        List.count_eq_zero.mpr fun hmem => howned (List.mem_singleton.mp hmem).symm
      rw [if_neg fun h => howned (Option.some.inj h.1)]
      dsimp only
      split
      · rfl
      · exact hcount

/-- The default configuration has no file. -/
theorem openedFile_default (w : World) : openedFile {} w = none := rfl

/-- Every request closes what a change of the owned sink closes. -/
theorem Session.closings_eq (st : Session) (req : Request) :
    st.closings req = Service.releases st.service.active (st.step req).owned := by
  -- where the owned sink stays the same, nothing is closed
  have hsame : ∀ {st' : Session}, st'.owned = st.owned →
      [] = Service.releases st.service.active st'.owned := by
    intro st' h
    rw [h, Session.owned, Service.releases]
    cases st.service.active.bind (·.closer) <;> simp
  cases req with
  | configure cfg => rw [st.owned_configure cfg, Session.closings]
  | reset => rfl
  | install l => rfl
  | reinstall i =>
    rw [Session.closings]
    split
    · rename_i hi
      rw [Session.step_reinstall (List.getElem?_eq_getElem hi)]
      rfl
    · rename_i hi
      apply hsame
      simp only [Session.step, List.getElem?_eq_none (Nat.le_of_not_lt hi)]
  | setLevel level => exact hsame rfl
  | setKeys keys => exact hsame rfl
  | setClock clock => exact hsame rfl
  | fetch =>
    apply hsame
    cases ha : st.service.active with
    | some a => rw [Session.step_fetch_of_some ha]; rfl
    | none =>
      obtain ⟨a, -, hfetch⟩ := Session.step_fetch_of_none ha
      rw [hfetch]
      show (st.step (.configure {})).owned = st.owned
      rw [st.owned_configure, openedFile_default, Session.owned, ha]
      rfl
  | derive i d =>
    apply hsame
    rw [Session.step]
    split <;> rfl
  | log i make =>
    apply hsame
    rw [Session.step]
    split <;> rfl

/-- A sink is closed at a request if its ownership ends there, once. -/
theorem Session.count_closings (st : Session) (req : Request) (sink : Sink) :
    (st.closings req).count sink =
      if st.owned = some sink ∧ (st.step req).owned ≠ some sink then 1 else 0 := by
  rw [st.closings_eq req, Service.count_releases]
  rfl

theorem Session.mem_closings (st : Session) (req : Request) (sink : Sink) :
    sink ∈ st.closings req ↔ st.owned = some sink ∧ (st.step req).owned ≠ some sink := by
  rw [← List.count_pos_iff, st.count_closings]
  split <;> simp_all

/-! ## What else a request does -/

theorem Service.release_disowned (st : Session) (kept : Option Sink) (w : World) :
    Service.release st.disowned.service.active kept w = w := by
  rw [Service.release, Session.disowned]
  cases st.service.active <;> rfl

/-- The calls to close sinks come last in a request, and the rest of it knows nothing of what the
service owns. -/
theorem Session.step_world (st : Session) (req : Request) :
    (st.step req).world = Sink.closeAll (st.closings req) (st.disowned.step req).world := by
  have hinstall : ∀ l, (st.step (.install l)).world =
      Sink.closeAll (Service.releases st.service.active none) (st.disowned.step (.install l)).world := by
    intro l
    show Service.release st.service.active none st.world =
      Sink.closeAll _ (Service.release st.disowned.service.active none st.world)
    rw [Service.release_disowned, Service.release_eq]
  have hconfigure : ∀ cfg, (st.step (.configure cfg)).world =
      Sink.closeAll (st.closings (.configure cfg)) (st.disowned.step (.configure cfg)).world := by
    intro cfg
    show Service.release st.service.active (openedFile cfg st.world) _ =
      Sink.closeAll _ (Service.release st.disowned.service.active (openedFile cfg st.world) _)
    rw [Service.release_disowned, Service.release_eq]
    rfl
  cases req with
  | configure cfg => exact hconfigure cfg
  | reset =>
    show Service.release st.service.active none _ =
      Sink.closeAll _ (Service.release st.disowned.service.active none _)
    rw [Service.release_disowned, Service.release_eq]
    rfl
  | install l => exact hinstall l
  | reinstall i =>
    cases hl : st.loggers[i]? with
    | none =>
      have hi := List.getElem?_eq_none_iff.mp hl
      have hl' : st.disowned.loggers[i]? = none := hl
      simp only [Session.step, Session.closings, hl, hl', if_neg (Nat.not_lt.mpr hi)]
      rfl
    | some l =>
      obtain ⟨hi, -⟩ := List.getElem?_eq_some_iff.mp hl
      have hl' : st.disowned.loggers[i]? = some l := hl
      rw [Session.step_reinstall hl, Session.step_reinstall hl', Session.closings, if_pos hi]
      exact hinstall l
  | setLevel level => rfl
  | setKeys keys => rfl
  | setClock clock => rfl
  | fetch =>
    cases ha : st.service.active with
    | some a =>
      have ha' : st.disowned.service.active = some { a with closer := none } := by
        simp [Session.disowned, ha]
      rw [Session.step_fetch_of_some ha, Session.step_fetch_of_some ha']
      rfl
    | none =>
      have heq : st.disowned = st := by
        obtain ⟨⟨active, threshold, keys⟩, world, loggers⟩ := st
        obtain rfl : active = none := ha
        rfl
      rw [heq]
      rfl
  | derive i d =>
    have hl : st.disowned.loggers[i]? = st.loggers[i]? := rfl
    simp only [Session.step, hl]
    split <;> rfl
  | log i make =>
    have hl : st.disowned.loggers[i]? = st.loggers[i]? := rfl
    simp only [Session.step, hl]
    split <;> rfl

theorem World.closes_fileSink (cfg : Config) (w : World) (c : Closable) :
    (Service.fileSink cfg w).2.closes c = w.closes c := by
  obtain ⟨files, appenders, rotators, next, hopened⟩ := Service.fileSink_snd cfg w
  rw [hopened]
  rfl

/-- Nothing is closed at a request to a service that owns nothing. -/
theorem Session.closes_disowned (st : Session) (req : Request) (c : Closable) :
    (st.disowned.step req).world.closes c = st.world.closes c := by
  have hinstall : ∀ l, (st.disowned.step (.install l)).world = st.world :=
    fun l => Service.release_disowned st none st.world
  have hconfigure : ∀ cfg,
      (st.disowned.step (.configure cfg)).world.closes c = st.world.closes c := by
    intro cfg
    obtain ⟨console, number, next, -, -, heq⟩ := configure_eq st.disowned.service cfg st.world
    have hworld : (st.disowned.step (.configure cfg)).world = _ := congrArg Prod.snd heq
    rw [hworld, Service.release_disowned]
    exact World.closes_fileSink cfg st.world c
  cases req with
  | configure cfg => exact hconfigure cfg
  | reset =>
    show (Service.release st.disowned.service.active none _).closes c = _
    rw [Service.release_disowned]
    rfl
  | install l => rw [hinstall l]
  | reinstall i =>
    cases hl : st.disowned.loggers[i]? with
    | none => simp only [Session.step, hl]; rfl
    | some l => rw [Session.step_reinstall hl, hinstall l]
  | setLevel level => rfl
  | setKeys keys => rfl
  | setClock clock => rfl
  | fetch =>
    cases ha : st.disowned.service.active with
    | some a => rw [Session.step_fetch_of_some ha]; rfl
    | none =>
      obtain ⟨a, -, hfetch⟩ := Session.step_fetch_of_none ha
      rw [hfetch]
      exact hconfigure {}
  | derive i d =>
    cases hl : st.disowned.loggers[i]? with
    | none => simp only [Session.step, hl]; rfl
    | some l =>
      obtain ⟨m, -, hsnd⟩ := l.derive_snd d st.disowned.world
      simp only [Session.step, hl, hsnd]
      rfl
  | log i make =>
    cases hl : st.disowned.loggers[i]? with
    | none => simp only [Session.step, hl]; rfl
    | some l =>
      simp only [Session.step, hl]
      exact (l.written_logRecord _ st.world).closes c

/-! ## Counting -/

theorem World.closes_countFileClose (w : World) (n : Nat) (c : Closable) :
    (w.countFileClose n).closes c = w.closes c + if .file n = c then 1 else 0 := by
  cases c with
  | buffer m => simp [World.closes, World.countFileClose]
  | file m =>
    rw [World.closes, World.countFileClose, Table.find?_put]
    by_cases h : n = m
    · subst h
      simp [World.closes]
    · simp [World.closes, h]

/-- Closing a sink counts once for the sink at the end of it, and for no other. -/
theorem World.closes_close (sink : Sink) (w : World) (c : Closable) :
    (sink.close w).closes c = w.closes c + if sink.closable? = some c then 1 else 0 := by
  induction sink with
  | buffer m =>
    cases c with
    | file n => simp [Sink.close, Sink.closable?, Sink.base, World.closes]
    | buffer n =>
      rw [Sink.close, World.closes, Table.find?_put]
      by_cases h : m = n
      · subst h
        simp [Sink.closable?, Sink.base, World.closes]
      · simp [Sink.closable?, Sink.base, World.closes, h]
  | appender m | rotator m =>
    have hcount := w.closes_countFileClose m c
    simp only [Sink.closable?, Sink.base, Option.some.injEq]
    rw [Sink.close, ← hcount]
    split <;> cases c <;> rfl
  | colored m inner ih => exact ih
  | console m | discard m | device m => simp [Sink.closable?, Sink.base, Sink.close]

theorem World.closes_closeAll (sinks : List Sink) (w : World) (c : Closable) :
    (Sink.closeAll sinks w).closes c =
      w.closes c + sinks.countP fun sink => decide (sink.closable? = some c) := by
  induction sinks generalizing w with
  | nil => rfl
  | cons sink sinks ih =>
    show (Sink.closeAll sinks (sink.close w)).closes c = _
    rw [ih, World.closes_close, List.countP_cons]
    simp only [decide_eq_true_eq]
    omega

/-! ## Sessions -/

/-- **Once per ownership.** Over any session, each sink is closed as often as the service stops
owning it, and at the very requests where it does. A request does the closing last, and otherwise
does what it would do to a service that owns nothing; of each buffer and of each opened file the
calls that reach it are counted, and no others. So configuring with the sink that is owned already
closes nothing, configuring with a file that cannot be opened closes what was owned, and a service
owns no sink of a logger installed. -/
theorem closed_once_per_ownership (st : Session) (requests : List Request) :
    (∀ sink, (st.closed requests).count sink = st.disownings sink requests) ∧
      (∀ c, (st.run requests).world.closes c = st.world.closes c +
        (st.closed requests).countP fun sink => decide (sink.closable? = some c)) ∧
      ∀ before req after, requests = before ++ req :: after →
        ((st.run before).step req).world =
          Sink.closeAll ((st.run before).closings req) ((st.run before).disowned.step req).world ∧
        (∀ sink, sink ∈ (st.run before).closings req ↔
          (st.run before).owned = some sink ∧ ((st.run before).step req).owned ≠ some sink) ∧
        (∀ cfg sink, req = .configure cfg → cfg.fileWriter = some sink →
          (st.run before).owned = some sink → (st.run before).closings req = []) ∧
        (∀ cfg e, req = .configure cfg →
          (Service.fileSink cfg (st.run before).world).1 = .error e →
          (st.run before).closings req = (st.run before).owned.toList) ∧
        ∀ l, req = .install l → ((st.run before).step req).owned = none := by
  refine ⟨fun sink => ?_, fun c => ?_, ?_⟩
  · induction requests generalizing st with
    | nil => rfl
    | cons req requests ih =>
      rw [Session.closed, List.count_append, st.count_closings, ih (st.step req), Session.disownings]
  · induction requests generalizing st with
    | nil => rfl
    | cons req requests ih =>
      rw [Session.run_cons, ih (st.step req), st.step_world, World.closes_closeAll,
        st.closes_disowned, Session.closed, List.countP_append, Nat.add_assoc]
  · rintro before req after -
    refine ⟨Session.step_world _ req, fun sink => Session.mem_closings _ req sink, ?_, ?_, ?_⟩
    · rintro cfg sink rfl hwriter howned
      have hagain : openedFile cfg (st.run before).world = some sink := by
        rw [openedFile, Service.fileSink, hwriter]
      rw [Session.closings_eq, Session.owned_configure, hagain, ← howned, Session.owned,
        Service.releases]
      cases (st.run before).service.active.bind (·.closer) <;> simp
    · rintro cfg e rfl hfailed
      have hnone : openedFile cfg (st.run before).world = none := by
        rw [openedFile, hfailed]
      rw [Session.closings_eq, Session.owned_configure, hnone, Session.owned, Service.releases]
      cases (st.run before).service.active.bind (·.closer) <;> simp
    · rintro l rfl
      rfl

/-- A file that the service opens, lost to a buffer that is configured twice in a row; the buffer
lost to a file that cannot be opened, and taken up again until a logger over it is installed by
itself. -/
def readopting : List Request :=
  [.configure { filePath := some "app.log" },
    .configure { fileWriter := some (.buffer 7) },
    .configure { level := .debug, fileWriter := some (.buffer 7) },
    .configure { filePath := some "missing/app.log" },
    .configure { fileWriter := some (.buffer 7) }, .fetch, .reinstall 0]

/-- One ownership of the file and two of the buffer, and as many closes. -/
theorem closed_once_per_ownership_readopted :
    let start : Session := .start (.initial 0 "")
    openedFile { filePath := some "app.log" } start.world = some (.appender 2) ∧
      (start.closed readopting).count (.appender 2) = 1 ∧
      (start.closed readopting).count (.buffer 7) = 2 ∧
      (start.run readopting).world.closes (.file 2) = 1 ∧
      (start.run readopting).world.closes (.buffer 7) = 2 := by
  intro start
  obtain ⟨hcount, hcloses, -⟩ := closed_once_per_ownership start readopting
  exact ⟨rfl, (hcount _).trans (by decide), (hcount _).trans (by decide),
    (hcloses _).trans (by decide), (hcloses _).trans (by decide)⟩

end LogPipeline
