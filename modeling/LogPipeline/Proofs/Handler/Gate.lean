import LogPipeline.Proofs.Handler.Effects
import LogPipeline.Proofs.Handler.Writes
import LogPipeline.Proofs.Redaction.Stage

/-!
# The gate in front of a chain

Whether a record gets through is decided twice: a logger asks the chain, which asks down to its
leaves, and handling the record leaves it to each leaf. Both follow one list, the chain's `terminals`:
the writes are one for each terminal that lets the level through (`sinks_writes`), and the chain is
enabled for the level if there is such a terminal (`enabled_eq_any`). So the logger's question is
exact, and nobody can tell that it was asked (`gate_unobservable`).
-/

namespace LogPipeline

/-- A leaf that writes: where to, and from which threshold on. -/
structure Terminal where
  sink : Sink
  threshold : Nat
  deriving DecidableEq, Repr

/-- The terminal lets records of the level through. -/
def Terminal.allows (w : World) (level : Level) (t : Terminal) : Bool := w.allows t.threshold level

namespace Handler

mutual

/-- The terminals of a chain in the order in which a record reaches them. -/
def terminals : Handler → List Terminal
  | .format f => [⟨f.sink, f.threshold⟩]
  | .recorder _ => []
  | .stack _ next | .redaction _ _ next => next.terminals
  | .fanout children => terminalsAll children

def terminalsAll : List Handler → List Terminal
  | [] => []
  | h :: rest => h.terminals ++ terminalsAll rest

end

end Handler

variable {w w' : World} {r : Record} {h : Handler} {d : Derivation}

/-! ## What a record's way through a chain leaves alone -/

@[simp] theorem StackRule.level_augment (rule : StackRule) (r : Record) (w : World) :
    (rule.augment r w).level = r.level := by
  unfold StackRule.augment
  split <;> rfl

@[simp] theorem level_redacted (keys : KeySet) (scope : Scope) (r : Record) :
    (redacted keys scope r).level = r.level := by
  rw [redacted_eq]

theorem Written.allows (hw : Written w w') (level : Level) (t : Terminal) :
    t.allows w' level = t.allows w level := by
  rw [Terminal.allows, Terminal.allows, World.allows, World.allows, World.level, World.level,
    hw.levels]

/-! ## Derivations -/

mutual

/-- A derivation leaves the terminals what they are. -/
theorem Handler.terminals_derive (d : Derivation) : ∀ h : Handler,
    (h.derive d).terminals = h.terminals
  | .format _ | .recorder _ | .redaction _ _ _ => rfl
  | .stack _ next => Handler.terminals_derive d next
  | .fanout children => Handler.terminalsAll_deriveAll d children

theorem Handler.terminalsAll_deriveAll (d : Derivation) : ∀ hs : List Handler,
    Handler.terminalsAll (Handler.deriveAll d hs) = Handler.terminalsAll hs
  | [] => rfl
  | h :: rest => by
    rw [Handler.deriveAll, Handler.terminalsAll, Handler.terminalsAll, h.terminals_derive d,
      Handler.terminalsAll_deriveAll d rest]

end

mutual

theorem Handler.NoRecorder.derive (d : Derivation) : ∀ h : Handler, h.NoRecorder →
    (h.derive d).NoRecorder
  | .format _, _ => trivial
  | .redaction _ _ _, h => h
  | .stack _ next, h => Handler.NoRecorder.derive d next h
  | .fanout children, h => Handler.NoRecorders.derive d children h

theorem Handler.NoRecorders.derive (d : Derivation) : ∀ hs : List Handler,
    Handler.NoRecorders hs → Handler.NoRecorders (Handler.deriveAll d hs)
  | [], _ => trivial
  | h :: rest, hh => ⟨Handler.NoRecorder.derive d h hh.1, Handler.NoRecorders.derive d rest hh.2⟩

end

theorem Handler.terminals_derived (ds : List Derivation) (h : Handler) :
    (h.derived ds).terminals = h.terminals := by
  induction ds generalizing h with
  | nil => rfl
  | cons d ds ih => exact (ih _).trans (h.terminals_derive d)

theorem Handler.NoRecorder.derived (ds : List Derivation) (hh : h.NoRecorder) :
    (h.derived ds).NoRecorder := by
  induction ds generalizing h with
  | nil => exact hh
  | cons d ds ih => exact ih (.derive d h hh)

/-! ## The two decisions -/

mutual

/-- Asking a chain is asking whether one of its terminals lets the level through. -/
theorem Handler.enabled_eq_any (w : World) (level : Level) : ∀ h : Handler, h.NoRecorder →
    h.enabled w level = h.terminals.any (Terminal.allows w level)
  | .format _, _ => (Bool.or_false _).symm
  | .stack _ next, h => Handler.enabled_eq_any w level next h
  | .redaction _ _ next, h => Handler.enabled_eq_any w level next h
  | .fanout children, h => Handler.anyEnabled_eq_any w level children h

theorem Handler.anyEnabled_eq_any (w : World) (level : Level) : ∀ hs : List Handler,
    Handler.NoRecorders hs →
      Handler.anyEnabled w level hs = (Handler.terminalsAll hs).any (Terminal.allows w level)
  | [], _ => rfl
  | h :: rest, hh => by
    rw [Handler.anyEnabled, Handler.terminalsAll, List.any_append,
      Handler.enabled_eq_any w level h hh.1, Handler.anyEnabled_eq_any w level rest hh.2]

end

mutual

/-- Handling a record attempts one write for each terminal that lets its level through, in the
order of the terminals, whichever writes before failed. -/
theorem Handler.sinks_writes : ∀ h : Handler, ∀ (r : Record) (w : World),
    (h.writes r w).map (·.sink) = (h.terminals.filter (Terminal.allows w r.level)).map (·.sink)
  | .format f, r, w => by
    rw [Handler.writes, Handler.terminals, List.filter_cons, Terminal.allows]
    split <;> rfl
  | .recorder _, _, _ => rfl
  | .stack rule next, r, w => by
    simpa [Handler.writes, Handler.terminals] using
      Handler.sinks_writes next (rule.augment r w) w
  | .redaction keys scope next, r, w => by
    simpa [Handler.writes, Handler.terminals] using
      Handler.sinks_writes next (redacted (w.keys keys) scope r) w
  | .fanout children, r, w => Handler.sinks_writesAll children r w

theorem Handler.sinks_writesAll : ∀ hs : List Handler, ∀ (r : Record) (w : World),
    (Handler.writesAll hs r w).map (·.sink) =
      ((Handler.terminalsAll hs).filter (Terminal.allows w r.level)).map (·.sink)
  | [], _, _ => rfl
  | h :: rest, r, w => by
    -- the children behind the first are reached after its writes, which touch no threshold
    have hsame : Terminal.allows (h.handle r w).2 r.level = Terminal.allows w r.level :=
      funext ((h.written_handle r w).allows r.level)
    rw [Handler.writesAll, Handler.terminalsAll, List.map_append, List.filter_append,
      List.map_append, Handler.sinks_writes h r w, Handler.sinks_writesAll rest r, hsame]

end

/-- Handling a record attempts no write if and only if the chain is not enabled for its level. -/
theorem Handler.writes_eq_nil_iff (hh : h.NoRecorder) (r : Record) (w : World) :
    h.writes r w = [] ↔ h.enabled w r.level = false := by
  rw [← List.map_eq_nil_iff, h.sinks_writes, List.map_eq_nil_iff, List.filter_eq_nil_iff,
    h.enabled_eq_any w r.level hh, List.any_eq_false]

theorem Handler.enabled_iff_writes (hh : h.NoRecorder) (r : Record) (w : World) :
    h.enabled w r.level = true ↔ h.writes r w ≠ [] := by
  rw [Ne, Handler.writes_eq_nil_iff hh, Bool.not_eq_false]

theorem Handler.handle_of_not_enabled (hh : h.NoRecorder)
    (hoff : h.enabled w r.level = false) : h.handle r w = (.ok (), w) := by
  rw [h.handle_eq_perform hh, (Handler.writes_eq_nil_iff hh r w).mpr hoff, perform]

/-! ## Loggers -/

/-- The writes that logging a record through a logger leads to. -/
def Logger.emissions (l : Logger) (r : Record) (w : World) : List SinkWrite :=
  if l.enabled r.level w then l.handler.writes r w else []

/-- What a logger does with a record is to make its emissions. -/
theorem Logger.logRecord_eq_perform {l : Logger} (hl : l.handler.NoRecorder) (r : Record)
    (w : World) : l.logRecord r w = (perform (l.emissions r w) w).2 := by
  unfold Logger.logRecord Logger.emissions
  split
  · rw [l.handler.handle_eq_perform hl]
  · rfl

theorem Logger.log_eq_logRecord (l : Logger) (level : Level) (message : String)
    (attrs : List Attr) (source : Source) (w : World) :
    l.log level message attrs source w =
      l.logRecord ⟨w.now, level, message, attrs, some source⟩ w :=
  rfl

/-- **The gate is exact and cannot be observed.** Of any chain over leaves that write, derived in
any way: handling a record makes one write for each terminal whose own threshold lets the record
through, in order, and these are all that it does. The chain is enabled for the record's level
exactly if there is such a write, and if it is not, handling the record succeeds and changes
nothing. So a logger, which asks first and drops the error, leaves every state as handling the
record does, both for a record it is given and for one it makes itself. -/
theorem gate_unobservable {h : Handler} (hh : h.NoRecorder) (ds : List Derivation) :
    (∀ (r : Record) (w : World),
      ((h.derived ds).writes r w).map (·.sink) =
          (h.terminals.filter (Terminal.allows w r.level)).map (·.sink) ∧
        (h.derived ds).handle r w = perform ((h.derived ds).writes r w) w ∧
        ((h.derived ds).enabled w r.level = true ↔ (h.derived ds).writes r w ≠ []) ∧
        ((h.derived ds).enabled w r.level = false →
          (h.derived ds).handle r w = (.ok (), w))) ∧
      ∀ l : Logger, l.handler = h.derived ds →
        (∀ (r : Record) (w : World), l.logRecord r w = ((h.derived ds).handle r w).2) ∧
          ∀ (level : Level) (message : String) (attrs : List Attr) (source : Source) (w : World),
            l.log level message attrs source w =
              ((h.derived ds).handle ⟨w.now, level, message, attrs, some source⟩ w).2 := by
  have hd : (h.derived ds).NoRecorder := hh.derived ds
  refine ⟨fun r w => ⟨?_, Handler.handle_eq_perform _ hd r w, Handler.enabled_iff_writes hd r w,
    Handler.handle_of_not_enabled hd⟩, ?_⟩
  · rw [Handler.sinks_writes, Handler.terminals_derived]
  · intro l hl
    have hlog : ∀ r w, l.logRecord r w = ((h.derived ds).handle r w).2 := by
      intro r w
      rw [Logger.logRecord, Logger.enabled, hl]
      split
      · rfl
      · rename_i hoff
        rw [Handler.handle_of_not_enabled hd (Bool.eq_false_iff.mpr hoff)]
    exact ⟨hlog, fun level message attrs source w =>
      (l.log_eq_logRecord level message attrs source w).trans (hlog _ w)⟩

/-- A fan-out over two thresholds, one leaf below a call stack and one behind a redaction stage: of
an informational record, only the second leaf writes. -/
theorem gate_unobservable_fanout :
    let h : Handler := .fanout [
      .stack ⟨.warn, 8⟩ (.format ⟨.device 3, .json, 0, false, .empty⟩),
      .redaction 1 .empty (.format ⟨.buffer 2, .text, 1, true, .empty⟩)]
    let w : World := ((World.initial 0 "").setLevel 0 .error).setLevel 1 .info
    let r : Record := ⟨⟨0, 0⟩, .info, "ready", [], none⟩
    h.NoRecorder ∧
      (h.derived [.group "request", .attrs [⟨"id", .int 7⟩]]).enabled w r.level = true ∧
      ((h.derived [.group "request", .attrs [⟨"id", .int 7⟩]]).writes r w).map (·.sink) =
        [.buffer 2] := by
  intro h w r
  have hh : h.NoRecorder := ⟨trivial, trivial, trivial⟩
  obtain ⟨hsinks, -, henabled, -⟩ :=
    (gate_unobservable hh [.group "request", .attrs [⟨"id", .int 7⟩]]).1 r w
  have hone : (h.terminals.filter (Terminal.allows w r.level)).map (·.sink) = [.buffer 2] := by
    decide
  refine ⟨hh, henabled.mpr ?_, hsinks.trans hone⟩
  intro hnone
  rw [hnone, hone] at hsinks
  cases hsinks

end LogPipeline
