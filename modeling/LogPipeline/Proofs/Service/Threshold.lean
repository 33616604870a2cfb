import LogPipeline.Proofs.Handler.Binding
import LogPipeline.Proofs.Handler.Gate
import LogPipeline.Proofs.Service.Register

/-!
# The level of a service

All chains that a service ever built stand behind one threshold. A level that is set holds for all of
them, whatever is logged, derived or installed, until it is set again, and it is set again by
configuring and resetting too (`level_lasts`). A service that is not configured does configure itself
when its logger is asked for, and is at the usual level then: this is the one way in which a level
lapses (`Session.lapses`).
-/

namespace LogPipeline

/-- The request neither configures the service, nor resets it, nor sets its level. -/
def Request.KeepsLevel : Request → Prop
  | .configure _ | .reset | .setLevel _ => False
  | .install _ | .reinstall _ | .setKeys _ | .setClock _ | .fetch | .derive _ _ | .log _ _ => True

namespace Session

/-- The request asks for the logger of a service that is not configured. -/
def configuresItself (st : Session) : Request → Bool
  | .fetch => !st.service.isConfigured
  | _ => false

/-- Whether the service configures itself on the way. -/
def lapses : Session → List Request → Bool
  | _, [] => false
  | st, req :: rest => st.configuresItself req || (st.step req).lapses rest

end Session

/-- The service is at the level, and so are all loggers of its making: they emit the records of that
level and above and no others, and do nothing else with a record. -/
def Register.Heeds (g : Register) (st : Session) (level : Level) : Prop :=
  st.service.level st.world = level ∧
    ∀ (i : Nat) (o : Origin) (l : Logger), g.loggers[i]? = some (some o) →
      st.loggers[i]? = some l → ∀ r : Record,
        (l.emissions r st.world ≠ [] ↔ level ≤ r.level) ∧
          l.logRecord r st.world = (perform (l.emissions r st.world) st.world).2

/-- A level that is set on a service that is not configured lapses when its logger is asked for. -/
theorem not_heeds_unconfigured :
    let requests : List Request := [.setLevel .error, .fetch]
    let st := (Session.start (.initial 0 "")).run requests
    Request.fetch.KeepsLevel ∧ st.service.level st.world = .info ∧
      ¬ (Register.empty.follow (.start (.initial 0 "")) requests).Heeds st .error := by
  refine ⟨trivial, rfl, fun h => ?_⟩
  have hlevel : Level.info = Level.error := h.1
  cases hlevel

/-- The logger lets through what passes the threshold, and all its leaves write. -/
structure Logger.Gated (threshold : Nat) (l : Logger) : Prop where
  noRecorder : l.handler.NoRecorder
  enabled : ∀ (w : World) (level : Level), l.enabled level w = w.allows threshold level

/-- Whatever logger the register takes for one of the service's making is behind the threshold of
the service. -/
structure Register.Gates (g : Register) (st : Session) : Prop where
  loggers : List.Forall₂ (fun origin l => origin.isSome → l.Gated st.service.threshold)
    g.loggers st.loggers
  active : ∀ a, st.service.active = some a → g.active.isSome →
    a.logger.Gated st.service.threshold

variable {g g' : Register} {st st' : Session} {req : Request} {l : Logger} {level : Level}
  {threshold : Nat} {w : World}

/-! ## Loggers behind a threshold -/

theorem Logger.Gated.derive (h : l.Gated threshold) (d : Derivation) (w : World) :
    (l.derive d w).1.Gated threshold := by
  have hmade : ∀ n, (⟨⟨n, l.handler.derive d⟩⟩ : Logger).Gated threshold := fun _ =>
    ⟨.derive d _ h.noRecorder,
      fun w level => (l.handler.enabled_derive w level d).trans (h.enabled w level)⟩
  cases d with
  | attrs attrs =>
    rw [Logger.derive, Logger.bind]
    split
    · exact h
    · exact hmade _
  | group name =>
    rw [Logger.derive, Logger.enter]
    split
    · exact h
    · exact hmade _

/-- What a service installs when it is configured is behind its threshold. -/
theorem Service.gated_configure (s : Service) (cfg : Config) (w : World) :
    ∃ a, (s.configure cfg w).2.1 = ⟨some a, s.threshold, s.keys⟩ ∧
      a.logger.Gated s.threshold := by
  obtain ⟨console, -, n, closer, hactive⟩ := configure_active s cfg w
  exact ⟨_, hactive, noRecorder_chainOver s cfg _ .empty,
    fun w level => enabled_chainOver (outlets_ne_nil _ _ _) .empty level⟩

/-- A logger behind the threshold emits the records from its level on. -/
theorem Logger.Gated.emissions (h : l.Gated threshold) (r : Record) (w : World) :
    l.emissions r w ≠ [] ↔ w.level threshold ≤ r.level := by
  have henabled : l.enabled r.level w = true ↔ w.level threshold ≤ r.level := by
    rw [h.enabled, World.allows, decide_eq_true_iff]
  rw [← henabled, Logger.emissions]
  split
  · rename_i hon
    exact iff_of_true ((l.handler.enabled_iff_writes h.noRecorder r w).mp hon) hon
  · rename_i hoff
    exact iff_of_false (fun hne => hne rfl) hoff

/-! ## What the service makes -/

theorem Register.Gates.configured (h : g.Gates st) (cfg : Config) (fs : FileSystem) :
    (g.configured cfg fs).Gates (st.step (.configure cfg)) := by
  obtain ⟨a, hactive, hgated⟩ := st.service.gated_configure cfg st.world
  refine ⟨?_, ?_⟩
  · simp only [Session.step, hactive]
    exact h.loggers
  · simp only [Session.step, hactive]
    rintro _ ⟨⟩ -
    exact hgated

/-- Another logger takes the place of the active one, and is as the register has it. -/
theorem Register.Gates.installed (h : g.Gates st) {origin : Option Origin}
    (hl : origin.isSome → l.Gated st.service.threshold) :
    (g.replaced origin).Gates (st.step (.install l)) := by
  refine ⟨h.loggers, ?_⟩
  rintro _ ⟨⟩ hsome
  exact hl hsome

/-- The session has got one more logger, which is as the register has it. -/
theorem Register.Gates.got (h : g.Gates st) {origin : Option Origin}
    (hl : origin.isSome → l.Gated st.service.threshold) (w : World) :
    (g.got origin).Gates { st with world := w, loggers := st.loggers ++ [l] } :=
  ⟨List.rel_append h.loggers (.cons hl .nil), h.active⟩

theorem Register.Gates.step (h : g.Gates st) (req : Request) :
    (g.note st req).Gates (st.step req) := by
  cases req with
  | configure cfg => exact h.configured cfg st.world.files
  | reset => exact ⟨h.loggers, by rintro a ⟨⟩⟩
  | install l => exact h.installed (by rintro ⟨⟩)
  | reinstall i =>
    obtain ⟨horigin, hlogger⟩ | ⟨origin, l, horigin, hlogger, hl⟩ := getElem?_of_forall₂ h.loggers i
    · simpa only [note, Session.step, horigin, hlogger] using h
    · rw [Session.step_reinstall hlogger, note, horigin]
      exact h.installed hl
  | setLevel level => exact ⟨h.loggers, h.active⟩
  | setKeys keys => exact ⟨h.loggers, h.active⟩
  | setClock clock => exact ⟨h.loggers, h.active⟩
  | fetch =>
    cases ha : st.service.active with
    | some a =>
      rw [Session.step_fetch_of_some ha, note, Service.isConfigured, ha, Option.isSome_some,
        if_pos rfl]
      exact h.got (h.active a ha) st.world
    | none =>
      obtain ⟨a, hactive, hfetch⟩ := Session.step_fetch_of_none ha
      have hconfigured := h.configured {} st.world.files
      rw [hfetch, note, Service.isConfigured, ha, Option.isSome_none, if_neg (by simp)]
      exact hconfigured.got (hconfigured.active a hactive) _
  | derive i d =>
    obtain ⟨horigin, hlogger⟩ | ⟨origin, l, horigin, hlogger, hl⟩ := getElem?_of_forall₂ h.loggers i
    · simpa only [note, Session.step, horigin, hlogger] using h
    · simp only [note, Session.step, horigin, hlogger]
      refine h.got (fun hsome => ?_) _
      exact (hl (by simpa using hsome)).derive d st.world
  | log i make =>
    obtain ⟨horigin, hlogger⟩ | ⟨origin, l, horigin, hlogger, hl⟩ := getElem?_of_forall₂ h.loggers i
    · simpa only [note, Session.step, horigin, hlogger] using h
    · simp only [note, Session.step, horigin, hlogger]
      exact ⟨h.loggers, h.active⟩

theorem Register.Gates.run (h : g.Gates st) (requests : List Request) :
    (g.follow st requests).Gates (st.run requests) := by
  induction requests generalizing g st with
  | nil => exact h
  | cons req requests ih => exact ih (h.step req)

theorem Register.gates_start (w : World) : Register.empty.Gates (Session.start w) :=
  ⟨.nil, by rintro a ⟨⟩⟩

/-! ## The level -/

/-- Configuring sets the level. -/
theorem Session.level_configure (st : Session) (cfg : Config) :
    (st.step (.configure cfg)).service.level (st.step (.configure cfg)).world = cfg.level := by
  obtain ⟨console, number, next, -, -, heq⟩ := configure_eq st.service cfg st.world
  have hreleased := Service.released_release st.service.active (openedFile cfg st.world)
    (st.service.setLevel cfg.level { (Service.fileSink cfg st.world).2 with next })
  simp only [Session.step, heq, Service.level, World.level, hreleased.levels]
  exact (World.level_setLevel _ _ _ _).trans (if_pos rfl)

theorem Session.level_step (st : Session) (hreq : req.KeepsLevel) :
    (st.step req).service.level (st.step req).world =
      if st.configuresItself req then .info else st.service.level st.world := by
  have hinstall : ∀ l, (st.step (.install l)).service.level (st.step (.install l)).world =
      st.service.level st.world := by
    intro l
    have hreleased := Service.released_release st.service.active none st.world
    exact congrArg (fun levels => (levels.find? st.service.threshold).getD .info) hreleased.levels
  cases req with
  | configure cfg => exact hreq.elim
  | reset => exact hreq.elim
  | setLevel level => exact hreq.elim
  | install l => exact hinstall l
  | reinstall i =>
    cases hl : st.loggers[i]? with
    | none =>
      simp only [Session.step, hl]
      rfl
    | some l =>
      rw [Session.step_reinstall hl]
      exact hinstall l
  | setKeys keys => rfl
  | setClock clock => rfl
  | fetch =>
    cases ha : st.service.active with
    | some a =>
      rw [Session.step_fetch_of_some ha, configuresItself, Service.isConfigured, ha]
      rfl
    | none =>
      obtain ⟨a, -, hfetch⟩ := Session.step_fetch_of_none ha
      rw [hfetch, configuresItself, Service.isConfigured, ha]
      exact st.level_configure {}
  | derive i d =>
    cases hl : st.loggers[i]? with
    | none =>
      simp only [Session.step, hl]
      rfl
    | some l =>
      obtain ⟨n, -, hworld⟩ := l.derive_snd d st.world
      simp only [Session.step, hl, hworld]
      rfl
  | log i make =>
    cases hl : st.loggers[i]? with
    | none =>
      simp only [Session.step, hl]
      rfl
    | some l =>
      have hwritten := l.written_logRecord (make st.world.now) st.world
      simp only [Session.step, hl, Service.level, World.level, hwritten.levels]
      rfl

theorem Session.level_run (st : Session) {requests : List Request}
    (hkeeps : ∀ req ∈ requests, req.KeepsLevel) :
    (st.run requests).service.level (st.run requests).world =
      if st.lapses requests then .info else st.service.level st.world := by
  induction requests generalizing st with
  | nil => rfl
  | cons req requests ih =>
    rw [List.forall_mem_cons] at hkeeps
    rw [run_cons, ih (st.step req) hkeeps.2, st.level_step hkeeps.1, lapses]
    cases st.configuresItself req <;> cases (st.step req).lapses requests <;> rfl

/-- **A level lasts.** After a level was set, at any time in the life of a service and whether or not
it is configured then, and as long as it is neither set again nor the service configured or reset,
the service is at that level, and so is every logger that it made, whatever else is requested. There
is one exception: once the logger of a service that is not configured is asked for, which configures
it, the level is informational from then on. -/
theorem level_lasts (w : World) (before : List Request) (level : Level) {later : List Request}
    (hlater : ∀ req ∈ later, req.KeepsLevel) :
    let requests := before ++ .setLevel level :: later
    let set := ((Session.start w).run before).step (.setLevel level)
    (Register.empty.follow (.start w) requests).Heeds ((Session.start w).run requests)
      (if set.lapses later then .info else level) := by
  intro requests set
  have hrun : (Session.start w).run requests = set.run later := Session.run_append _ _ _
  have hset : set.service.level set.world = level :=
    (World.level_setLevel _ _ _ _).trans (if_pos rfl)
  have hgates : (Register.empty.follow (.start w) requests).Gates ((Session.start w).run requests) :=
    (Register.gates_start w).run requests
  have hlevel := set.level_run hlater
  rw [← hrun, hset] at hlevel
  refine ⟨hlevel, fun i o l horigin hlogger r => ?_⟩
  obtain ⟨hnone, -⟩ | ⟨origin, l', horigin', hlogger', hgated⟩ := getElem?_of_forall₂ hgates.loggers i
  · rw [hnone] at horigin
    cases horigin
  · obtain rfl : origin = some o := Option.some.inj (horigin'.symm.trans horigin)
    obtain rfl : l' = l := Option.some.inj (hlogger'.symm.trans hlogger)
    have hgated := hgated rfl
    rw [← hlevel]
    exact ⟨hgated.emissions r _, Logger.logRecord_eq_perform hgated.noRecorder r _⟩

/-- The level is set between getting a logger and deriving from it, and in a second run before the
service is configured. -/
theorem level_lasts_derived :
    let start := Session.start (.initial 0 "")
    let derived : List Request := [.configure {}, .fetch] ++ .setLevel .error ::
      [.derive 0 (.group "request"), .reinstall 1, .setKeys ⟨["token"]⟩, .fetch]
    let unconfigured : List Request := [] ++ .setLevel .error :: [.setKeys ⟨["token"]⟩, .fetch]
    (Register.empty.follow start derived).Heeds (start.run derived) .error ∧
      (Register.empty.follow start unconfigured).Heeds (start.run unconfigured) .info := by
  have hderived := @level_lasts (.initial 0 "") [.configure {}, .fetch] .error
    [.derive 0 (.group "request"), .reinstall 1, .setKeys ⟨["token"]⟩, .fetch]
    (by simp [Request.KeepsLevel])
  have hunconfigured := @level_lasts (.initial 0 "") [] .error
    [.setKeys ⟨["token"]⟩, .fetch] (by simp [Request.KeepsLevel])
  exact ⟨hderived, hunconfigured⟩

end LogPipeline
