import LogPipeline.Proofs.Handler.Effects
import LogPipeline.Proofs.Handler.Stack
import LogPipeline.Proofs.Handler.Writes
import LogPipeline.Proofs.Redaction.Stage
import LogPipeline.Service.Basic

/-!
# The chain of a service, laid flat

What a configured service does with a record, without the stages that do it (`configured_flat`): if
the record passes the threshold, each outlet of the configuration gets one write of one line, also
behind one that refuses its line. The line is that of the record with all bound attributes and its
own merged, redacted by the keys of the moment, and with the call stack behind them.
-/

namespace LogPipeline

/-! ## The specification -/

/-- A sink, and how lines are written to it. -/
structure Outlet where
  sink : Sink
  encoding : Encoding

def encodingOf (isJson : Bool) : Encoding := if isJson then .json else .text

/-- The outlets of a configuration: the console, if it is wanted or there is no file; then the
file. The console in the place of a file gets plain text. -/
def outlets (cfg : Config) (console : Sink) (file : Option Sink) : List Outlet :=
  (if cfg.console then [⟨console, encodingOf cfg.consoleJson⟩]
    else if file.isNone then [⟨console, .text⟩] else []) ++
  file.toList.map (⟨·, encodingOf cfg.jsonFile⟩)

/-- Writes the line of a record to each outlet once and in order, whatever the earlier writes
give. -/
def broadcast (addSource : Bool) (r : Record) (os : List Outlet) (w : World) : World :=
  os.foldl (fun w o => (o.sink.write (o.encoding.line r addSource r.attrs) w).2) w

/-- The cap on the call stack that holds for a configuration. -/
def Config.stackCap (cfg : Config) : Nat :=
  if cfg.stackMaxBytes = 0 then StackRule.defaultMaxBytes else cfg.stackMaxBytes

/-- The call stack as an attribute, if the configuration asks for it at the level. -/
def stackAttrs (cfg : Config) (level : Level) (callStack : String) : List Attr :=
  match cfg.stackLevel with
  | none => []
  | some least =>
    if level < least then []
    else [⟨"stack", .str (String.ofList (StackRule.fit cfg.stackCap callStack.toList))⟩]

/-- The sink for files that a configuration ends up with; none if its file cannot be opened. -/
def openedFile (cfg : Config) (w : World) : Option Sink :=
  match (Service.fileSink cfg w).1 with
  | .ok sink => sink
  | .error _ => none

/-- The console, coloured or not. -/
def IsConsole (sink : Sink) : Prop :=
  ∃ n, sink = .console n ∨ ∃ m, sink = .colored m (.console n)

/-- The console that a configuration writes to: coloured if it is asked for, where colours are
wanted. -/
def IsConsoleOf (cfg : Config) (w : World) (sink : Sink) : Prop :=
  if cfg.console && w.wantsColor then ∃ n m, sink = .colored m (.console n)
  else ∃ n, sink = .console n

/-- The logger that a service gives out after it was configured, or configures itself for. -/
inductive Service.Gives (s : Service) : Config → World → Logger → Prop where
  | configured (cfg : Config) (w later : World) :
    Gives s cfg w ((s.configure cfg w).2.1.logger later).1
  | lazy (w : World) : s.active = none → Gives s {} w (s.logger w).1

/-- Loggers derived from a logger step by step, at any times. -/
inductive Logger.Derived (l : Logger) : List Derivation → Logger → Prop where
  | refl : Derived l [] l
  | bind {ds : List Derivation} {l' : Logger} (attrs : List Attr) (w : World) :
    Derived l ds l' → Derived l (ds ++ [.attrs attrs]) (l'.bind attrs w).1
  | enter {ds : List Derivation} {l' : Logger} (name : String) (w : World) :
    Derived l ds l' → Derived l (ds ++ [.group name]) (l'.enter name w).1

variable {s : Service} {cfg : Config} {w : World} {l l' l'' : Logger} {ds es : List Derivation}
  {r : Record}

/-! ## Leaves -/

theorem Level.le_iff_not_lt {a b : Level} : a ≤ b ↔ ¬ b < a :=
  (Nat.not_lt (a := b.rank) (b := a.rank)).symm

theorem Sink.levels_write (s : Sink) (bytes : Bytes) (w : World) :
    (s.write bytes w).2.levels = w.levels := by
  induction s generalizing bytes with
  | console n | discard n | buffer n => rfl
  | appender n | rotator n =>
    rw [write]
    split <;> rfl
  | device n =>
    rw [write]
    split <;> rfl
  | colored n inner ih =>
    rw [write]
    split <;> exact ih _

/-- A write changes no threshold. -/
@[simp] theorem Sink.level_write (s : Sink) (bytes : Bytes) (w : World) (threshold : Nat) :
    (s.write bytes w).2.level threshold = w.level threshold := by
  rw [World.level, levels_write, World.level]

/-- The leaf of an outlet. -/
def Outlet.leaf (threshold : Nat) (addSource : Bool) (o : Outlet) : Handler :=
  .format ⟨o.sink, o.encoding, threshold, addSource, .empty⟩

theorem handle_leaf {threshold : Nat} (addSource : Bool) (o : Outlet)
    (hpass : w.level threshold ≤ r.level) :
    ((o.leaf threshold addSource).handle r w).2 =
      (o.sink.write (o.encoding.line r addSource r.attrs) w).2 := by
  rw [Outlet.leaf, Handler.handle, Formatter.handle, World.allows, if_pos (by simpa using hpass),
    Formatter.line, Scope.empty, resolve_empty]

/-- Delivering to leaves is writing to their outlets, whichever writes fail. -/
theorem handleAll_leaves {threshold : Nat} (addSource : Bool) (os : List Outlet)
    (hpass : w.level threshold ≤ r.level) :
    (Handler.handleAll (os.map (Outlet.leaf threshold addSource)) r w).2 =
      broadcast addSource r os w := by
  induction os generalizing w with
  | nil => rfl
  | cons o os ih =>
    rw [List.map_cons, Handler.handleAll, broadcast, List.foldl_cons, ← broadcast]
    dsimp only
    rw [handle_leaf addSource o hpass]
    exact ih (by simpa using hpass)

/-- Writing to outlets is one attempt for each of them, whichever writes fail. -/
theorem attempts?_broadcast (addSource : Bool) (r : Record) (os : List Outlet) (w : World)
    (n : Nat) : (broadcast addSource r os w).attempts? n =
      (w.attempts? n).map (· + os.countP fun o => decide (o.sink.base = .device n)) := by
  induction os generalizing w with
  | nil => exact Option.map_id'.symm
  | cons o os ih =>
    rw [broadcast, List.foldl_cons, ← broadcast, ih, o.sink.attempts?_write, Option.map_map]
    refine congrArg (Option.map · _) (funext fun k => ?_)
    simp only [Function.comp_apply, List.countP_cons, decide_eq_true_eq]
    omega

/-- The leaves of outlets under one handler; a single one stands by itself. -/
def Handler.over : List Handler → Handler
  | [h] => h
  | hs => .fanout hs

theorem handle_over (hs : List Handler) (r : Record) (w : World) :
    ((Handler.over hs).handle r w).2 = (Handler.handleAll hs r w).2 := by
  unfold Handler.over
  split
  · rfl
  · rw [Handler.handle]

theorem combine_eq_over {hs : List Handler} (h : hs ≠ []) :
    Handler.combine hs = some (.over hs) := by
  cases hs with
  | nil => exact absurd rfl h
  | cons a rest => cases rest <;> rfl

/-- All leaves stand behind one threshold. -/
theorem anyEnabled_leaves (threshold : Nat) (addSource : Bool) {os : List Outlet} (h : os ≠ [])
    (w : World) (level : Level) :
    Handler.anyEnabled w level (os.map (Outlet.leaf threshold addSource)) =
      w.allows threshold level := by
  induction os with
  | nil => exact absurd rfl h
  | cons o os ih =>
    rw [List.map_cons, Handler.anyEnabled, Outlet.leaf, Handler.enabled]
    cases os with
    | nil => simp [Handler.anyEnabled]
    | cons o' os => rw [ih (by simp), Bool.or_self]

theorem enabled_over (hs : List Handler) (w : World) (level : Level) :
    (Handler.over hs).enabled w level = Handler.anyEnabled w level hs := by
  unfold Handler.over
  split
  · simp [Handler.anyEnabled]
  · rw [Handler.enabled]

/-! ## Stages -/

theorem enabled_attachStack (next : Handler) (least : Option Level) (maxBytes : Nat) (w : World)
    (level : Level) : (next.attachStack least maxBytes).enabled w level = next.enabled w level := by
  cases least <;> rfl

theorem handle_attachStack (next : Handler) (cfg : Config) (r : Record) (w : World) :
    (next.attachStack cfg.stackLevel cfg.stackMaxBytes).handle r w =
      next.handle (r.append (stackAttrs cfg r.level w.callStack)) w := by
  unfold Handler.attachStack stackAttrs
  cases cfg.stackLevel with
  | none => simp [Record.append]
  | some least =>
    simp only [Handler.handle, StackRule.augment, StackRule.capture, Config.stackCap]
    split
    · simp [Record.append]
    · rfl

/-- The attributes of a call stack are at most one, and it is within the cap. -/
theorem stackAttrs_spec (cfg : Config) (level : Level) (callStack : String) :
    (stackAttrs cfg level callStack = [] ∧ ∀ least, cfg.stackLevel = some least → level < least) ∨
    ∃ least text, cfg.stackLevel = some least ∧ least ≤ level ∧
      stackAttrs cfg level callStack = [⟨"stack", .str text⟩] ∧
      text.utf8ByteSize ≤ cfg.stackCap := by
  unfold stackAttrs
  cases hstack : cfg.stackLevel with
  | none => exact .inl ⟨rfl, by simp⟩
  | some least =>
    dsimp only
    split
    · rename_i hlt
      exact .inl ⟨rfl, by rintro _ ⟨⟩; exact hlt⟩
    · rename_i hle
      exact .inr ⟨least, _, rfl, Level.le_iff_not_lt.mpr hle, rfl, StackRule.size_fit _ _⟩

/-! ## The chain -/

/-- The chain over outlets. -/
def chainOver (s : Service) (cfg : Config) (os : List Outlet) (scope : Scope) : Handler :=
  .redaction s.keys scope
    ((Handler.over (os.map (Outlet.leaf s.threshold cfg.addSource))).attachStack cfg.stackLevel
      cfg.stackMaxBytes)

theorem IsConsoleOf.isConsole {sink : Sink} (h : IsConsoleOf cfg w sink) : IsConsole sink := by
  unfold IsConsoleOf at h
  split at h
  · obtain ⟨n, m, rfl⟩ := h
    exact ⟨n, .inr ⟨m, rfl⟩⟩
  · obtain ⟨n, rfl⟩ := h
    exact ⟨n, .inl rfl⟩

/-- A console without room refuses every line, and keeps nothing of it. -/
theorem IsConsole.write_full {sink : Sink} {e : IoError} {bytes : Bytes} (h : IsConsole sink)
    (hlimit : w.consoleLimit = some ⟨0, e⟩) (hne : bytes ≠ []) :
    sink.write bytes w = (.error e, w) := by
  have hfull : ∀ {line : Bytes}, line ≠ [] → w.writeConsole line = (.error e, w) := by
    intro line hline
    have hroom : ¬line.length ≤ 0 := by simpa using hline
    have hsame : { w with console := w.console ++ [], consoleLimit := some ⟨0, e⟩ } = w := by
      rw [List.append_nil, ← hlimit]
    simp only [World.writeConsole, World.consoleTakes, hlimit, if_neg hroom, List.take_zero,
      Option.map_some, Nat.zero_sub, hsame]
  obtain ⟨n, rfl | ⟨m, rfl⟩⟩ := h
  · exact hfull hne
  · rw [Sink.write]
    cases hpaint : Color.paint? bytes with
    | none => exact hfull hne
    | some painted =>
      obtain ⟨level, -, hlevel⟩ := List.exists_of_findSome?_eq_some hpaint
      obtain ⟨⟨before, after⟩, -, rfl⟩ := Option.map_eq_some_iff.mp hlevel
      have hcode : Color.code level ≠ [] := by cases level <;> decide +kernel
      simp only [Sink.write]
      rw [hfull (by simp [hcode])]
      rfl

theorem isConsoleOf_consoleSink (hconsole : cfg.console = true) (w : World) :
    IsConsoleOf cfg w (Service.consoleSink w).1 := by
  have hcolor : w.fresh.2.wantsColor = w.wantsColor := rfl
  unfold IsConsoleOf Service.consoleSink Sink.newConsole
  rw [hconsole, Bool.true_and]
  dsimp only
  rw [hcolor]
  split
  · exact ⟨w.next, _, rfl⟩
  · exact ⟨w.next, rfl⟩

theorem isConsoleOf_console (hconsole : cfg.console = false) (w : World) (n : Nat) :
    IsConsoleOf cfg w (.console n) := by
  rw [IsConsoleOf, hconsole]
  exact ⟨n, rfl⟩

theorem outlets_ne_nil (cfg : Config) (console : Sink) (file : Option Sink) :
    outlets cfg console file ≠ [] := by
  cases file with
  | none =>
    rw [outlets, Option.isNone_none, if_pos rfl]
    split <;> simp
  | some _ => simp [outlets]

/-- The chain over leaves that are there. -/
theorem chain_of_leaves (s : Service) (cfg : Config) {os : List Outlet} (h : os ≠ []) (w : World) :
    (s.chain cfg (os.map (Outlet.leaf s.threshold cfg.addSource)) w).1 =
      chainOver s cfg os .empty := by
  rw [Service.chain, combine_eq_over (by simpa using h)]
  rfl

/-- The chain of a configuration is that over its outlets. -/
theorem chain_terminals (s : Service) (cfg : Config) (file : Option Sink) (w : World) :
    ∃ console, IsConsoleOf cfg w console ∧
      (s.chain cfg (s.terminals cfg file w).1 (s.terminals cfg file w).2).1 =
        chainOver s cfg (outlets cfg console file) .empty := by
  have hleaves : ∀ (sink : Sink) (isJson : Bool), s.terminal sink isJson cfg.addSource =
    Outlet.leaf s.threshold cfg.addSource ⟨sink, encodingOf isJson⟩ := fun _ _ => rfl
  cases hconsole : cfg.console with
  | true =>
    refine ⟨(Service.consoleSink w).1, isConsoleOf_consoleSink hconsole w, ?_⟩
    rw [← chain_of_leaves s cfg (outlets_ne_nil cfg _ file) (s.terminals cfg file w).2]
    simp [Service.terminals, outlets, hconsole, hleaves, Function.comp_def]
  | false =>
    cases file with
    | some sink =>
      refine ⟨.console 0, isConsoleOf_console hconsole w 0, ?_⟩
      rw [← chain_of_leaves s cfg (outlets_ne_nil cfg _ (some sink)) w]
      simp [Service.terminals, outlets, hconsole, hleaves]
    | none =>
      refine ⟨.console w.next, isConsoleOf_console hconsole w _, ?_⟩
      simp only [Service.terminals, outlets, hconsole, chainOver]
      rfl

/-- What a service installs. -/
theorem configure_active (s : Service) (cfg : Config) (w : World) :
    ∃ console, IsConsole console ∧ ∃ n closer, (s.configure cfg w).2.1 =
      ⟨some ⟨⟨⟨n, chainOver s cfg (outlets cfg console (openedFile cfg w)) .empty⟩⟩, closer⟩,
        s.threshold, s.keys⟩ := by
  obtain ⟨console, hconsole, hchain⟩ :=
    chain_terminals s cfg (openedFile cfg w) (Service.fileSink cfg w).2
  refine ⟨console, hconsole.isConsole, ?_⟩
  rw [← hchain]
  exact ⟨_, _, rfl⟩

/-- Derivations stay in the redaction stage. -/
theorem derived_chainOver {os : List Outlet} (h : l.handler = chainOver s cfg os .empty)
    (hd : l.Derived ds l') : l'.handler = chainOver s cfg os (ds.foldl Scope.derive .empty) := by
  induction hd with
  | refl => exact h
  | bind attrs w _ ih =>
    rw [List.foldl_append, List.foldl_cons, List.foldl_nil, Logger.bind]
    split
    · rename_i hempty
      rw [Scope.derive, Scope.bind, mergeAt, if_pos hempty, ih]
    · exact congrArg (Handler.derive (.attrs attrs)) ih
  | enter name w _ ih =>
    rw [List.foldl_append, List.foldl_cons, List.foldl_nil, Logger.enter]
    split
    · rename_i hempty
      rw [Scope.derive, Scope.enter, if_pos hempty, ih]
    · exact congrArg (Handler.derive (.group name)) ih

/-- A chain over outlets lets through what passes its threshold. -/
theorem enabled_chainOver {os : List Outlet} (hne : os ≠ []) (scope : Scope) (level : Level) :
    (chainOver s cfg os scope).enabled w level = w.allows s.threshold level := by
  rw [chainOver, Handler.enabled, enabled_attachStack, enabled_over, anyEnabled_leaves _ _ hne]

/-- A chain over outlets does what its outlets say. -/
theorem logRecord_chainOver {os : List Outlet} (hne : os ≠ [])
    (h : l.handler = chainOver s cfg os (ds.foldl Scope.derive .empty)) (r : Record) (w : World) :
    l.logRecord r w = if r.level < w.level s.threshold then w
      else broadcast cfg.addSource
        { r with attrs := redactAttrs (w.keys s.keys) (merged ds r.attrs) ++
            stackAttrs cfg r.level w.callStack } os w := by
  have henabled : l.enabled r.level w = w.allows s.threshold r.level := by
    rw [Logger.enabled, h, enabled_chainOver hne]
  rw [Logger.logRecord, henabled]
  by_cases hlt : r.level < w.level s.threshold
  · rw [if_pos hlt, if_neg]
    simpa [World.allows, Level.le_iff_not_lt] using hlt
  · rw [if_neg hlt, if_pos (by simpa [World.allows, Level.le_iff_not_lt] using hlt), h, chainOver,
      handle_redaction, handle_attachStack, handle_over,
      handleAll_leaves]
    · rfl
    · exact Level.le_iff_not_lt.mpr hlt

/-! ## No recorder in a chain -/

theorem noRecorder_leaves (threshold : Nat) (addSource : Bool) (os : List Outlet) :
    Handler.NoRecorders (os.map (Outlet.leaf threshold addSource)) := by
  induction os with
  | nil => trivial
  | cons o os ih => exact ⟨trivial, ih⟩

theorem noRecorder_over {hs : List Handler} (h : Handler.NoRecorders hs) :
    (Handler.over hs).NoRecorder := by
  unfold Handler.over
  split
  · exact h.1
  · exact h

theorem noRecorder_attachStack {next : Handler} (h : next.NoRecorder) (least : Option Level)
    (maxBytes : Nat) : (next.attachStack least maxBytes).NoRecorder := by
  cases least with
  | none => exact h
  | some least => exact h

theorem noRecorder_chainOver (s : Service) (cfg : Config) (os : List Outlet) (scope : Scope) :
    (chainOver s cfg os scope).NoRecorder :=
  noRecorder_attachStack (noRecorder_over (noRecorder_leaves _ _ os)) _ _

/-! ## The sinks of a chain -/

theorem sinks_over (hs : List Handler) : (Handler.over hs).sinks = Handler.sinksAll hs := by
  unfold Handler.over
  split
  · simp [Handler.sinksAll]
  · rw [Handler.sinks]

theorem sinksAll_leaves (threshold : Nat) (addSource : Bool) (os : List Outlet) :
    Handler.sinksAll (os.map (Outlet.leaf threshold addSource)) = os.map (·.sink) := by
  induction os with
  | nil => rfl
  | cons o os ih =>
    rw [List.map_cons, Handler.sinksAll, ih]
    rfl

/-- The sinks of a chain are those of its outlets. -/
theorem sinks_chainOver (s : Service) (cfg : Config) (os : List Outlet) (scope : Scope) :
    (chainOver s cfg os scope).sinks = os.map (·.sink) := by
  have hstack : ∀ next : Handler,
      (next.attachStack cfg.stackLevel cfg.stackMaxBytes).sinks = next.sinks := by
    intro next
    unfold Handler.attachStack
    split
    · rfl
    · rw [Handler.sinks]
  rw [chainOver, Handler.sinks, hstack, sinks_over, sinksAll_leaves]

/-- The sinks of an outlet list: the console and the sink for files. -/
theorem mem_outlets {console : Sink} {file : Option Sink} {o : Outlet}
    (h : o ∈ outlets cfg console file) : o.sink = console ∨ file = some o.sink := by
  rcases List.mem_append.mp h with h | h
  · left
    split at h
    · rw [List.mem_singleton.mp h]
    · split at h
      · rw [List.mem_singleton.mp h]
      · simp at h
  · right
    obtain ⟨sink, hsink, rfl⟩ := List.mem_map.mp h
    simpa using hsink

theorem IsConsole.fileless {sink : Sink} (h : IsConsole sink) : sink.Fileless := by
  obtain ⟨n, rfl | ⟨m, rfl⟩⟩ := h
  · trivial
  · trivial

/-! ## Loggers -/

theorem Logger.Derived.trans (h : l.Derived ds l') (h' : l'.Derived es l'') :
    l.Derived (ds ++ es) l'' := by
  induction h' with
  | refl => rwa [List.append_nil]
  | bind attrs w _ ih =>
    rw [← List.append_assoc]
    exact ih.bind attrs w
  | enter name w _ ih =>
    rw [← List.append_assoc]
    exact ih.enter name w

/-- What a service gives out is a chain over the outlets of the configuration. -/
theorem gives_chainOver (h : s.Gives cfg w l) :
    ∃ console, IsConsole console ∧
      l.handler = chainOver s cfg (outlets cfg console (openedFile cfg w)) .empty := by
  cases h with
  | configured cfg w later =>
    obtain ⟨console, hconsole, n, closer, hactive⟩ := configure_active s cfg w
    refine ⟨console, hconsole, ?_⟩
    rw [hactive]
    rfl
  | lazy w hnone =>
    obtain ⟨console, hconsole, n, closer, hactive⟩ := configure_active s {} w
    refine ⟨console, hconsole, ?_⟩
    cases hc : s.configure {} w with
    | mk result rest =>
      rw [hc] at hactive
      simp only at hactive
      rw [Service.logger, hnone]
      simp only [hc, hactive]
      rfl

/-- **The chain laid flat.** Whatever logger is derived, step by step, from the one that a service
gives out for a configuration, and whatever has happened since: a record below the threshold of the
moment changes nothing, and any other is written once to each outlet of the configuration, in order
and whichever of the writes fail, with all attributes merged, redacted by the keys of the moment, and
with at most one attribute behind them, the call stack within its cap. A device counts one attempt
for each outlet that leads to it, also where it or the console in front of it refuses the write. -/
theorem configured_flat (h : s.Gives cfg w l) :
    ∃ console, IsConsole console ∧ ∀ (ds : List Derivation) (l' : Logger), l.Derived ds l' →
      ∀ (r : Record) (now : World), ∃ stack : List Attr,
        (stack = [] ∧ (∀ least, cfg.stackLevel = some least → r.level < least) ∨
          ∃ least text, cfg.stackLevel = some least ∧ least ≤ r.level ∧
            stack = [⟨"stack", .str text⟩] ∧ text.utf8ByteSize ≤ cfg.stackCap) ∧
        (l'.logRecord r now =
          if r.level < now.level s.threshold then now
          else broadcast cfg.addSource
            { r with attrs := redactAttrs (now.keys s.keys) (merged ds r.attrs) ++ stack }
            (outlets cfg console (openedFile cfg w)) now) ∧
        ∀ n, (l'.logRecord r now).attempts? n = (now.attempts? n).map fun k =>
          if r.level < now.level s.threshold then k
          else k + (outlets cfg console (openedFile cfg w)).countP fun o =>
            decide (o.sink.base = .device n) := by
  obtain ⟨console, hconsole, hchain⟩ := gives_chainOver h
  refine ⟨console, hconsole, fun ds l' hd r now => ?_⟩
  have hlog := logRecord_chainOver (outlets_ne_nil _ _ _) (derived_chainOver hchain hd) r now
  refine ⟨_, stackAttrs_spec cfg r.level now.callStack, hlog, fun n => ?_⟩
  rw [hlog]
  split
  · exact Option.map_id'.symm
  · exact attempts?_broadcast _ _ _ _ _

/-- A console that refuses the line, and a buffer behind it, from a logger with a group open: the
buffer gets its line all the same. -/
theorem configured_flat_full_console :
    let cfg : Config :=
      { jsonFile := true, stackLevel := some .error, fileWriter := some (.buffer 7) }
    let now : World := { World.initial 0 "main" with consoleLimit := some ⟨0, .device "full"⟩ }
    let r : Record := ⟨⟨1700000000, 250000000⟩, .warn, "slow", [⟨"token", .str "x"⟩], none⟩
    let shown : Record := { r with attrs :=
      [⟨"request", .group [⟨"id", .int 7⟩, ⟨"token", .str "x"⟩]⟩] }
    ∃ console l l', IsConsole console ∧ Service.Gives ⟨none, 0, 1⟩ cfg (.initial 0 "main") l ∧
      l.Derived [.group "request", .attrs [⟨"id", .int 7⟩]] l' ∧
      (console.write (Encoding.text.line shown false shown.attrs) now).1 =
        .error (.device "full") ∧
      (l'.logRecord r now).console = [] ∧
      ((l'.logRecord r now).buffers.find? 7).map (·.content) = some (Text.utf8
        ("\x7b\"time\":\"2023-11-14T22:13:20.250Z\",\"level\":\"WARN\",\"msg\":\"slow\"," ++
          "\"request\":\x7b\"id\":7,\"token\":\"x\"\x7d\x7d\n")) := by
  intro cfg now r shown
  obtain ⟨l, hgives⟩ : ∃ l, Service.Gives ⟨none, 0, 1⟩ cfg (.initial 0 "main") l :=
    ⟨_, .configured cfg _ (.initial 0 "main")⟩
  obtain ⟨l', hderived⟩ : ∃ l', l.Derived [.group "request", .attrs [⟨"id", .int 7⟩]] l' :=
    ⟨_, (Logger.Derived.refl.enter "request" (.initial 0 "main")).bind _ (.initial 0 "main")⟩
  obtain ⟨console, hconsole, hflat⟩ := configured_flat hgives
  obtain ⟨stack, hstack, hlog, -⟩ := hflat _ l' hderived r now
  obtain rfl : stack = [] := by
    rcases hstack with ⟨h, -⟩ | ⟨least, text, hleast, hle, -⟩
    · exact h
    · obtain rfl : Level.error = least := by simpa [cfg] using hleast
      exact absurd hle (show ¬Level.error ≤ Level.warn by decide)
  have hrefused : console.write (Encoding.text.line shown false shown.attrs) now =
      (.error (.device "full"), now) := hconsole.write_full rfl (by decide +kernel)
  have hreached : l'.logRecord r now =
      (Sink.write (.buffer 7) (Encoding.json.line shown false shown.attrs) now).2 := by
    rw [← resolve_derived, List.append_nil] at hlog
    refine hlog.trans ?_
    show broadcast false shown [⟨console, .text⟩, ⟨.buffer 7, .json⟩] now = _
    rw [broadcast, List.foldl_cons, hrefused]
    rfl
  refine ⟨console, l, l', hconsole, hgives, hderived, congrArg Prod.fst hrefused, ?_, ?_⟩
  · rw [hreached]
    rfl
  · rw [hreached]
    decide +kernel

end LogPipeline
