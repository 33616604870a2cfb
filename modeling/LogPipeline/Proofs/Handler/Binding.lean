import LogPipeline.Proofs.Handler.Writes
import LogPipeline.Proofs.Redaction.Stage

/-!
# Binding attributes

To bind attributes is to put them in front of those of every record (`bind_prepends`): a chain with
attributes bound makes the writes, and gives the result, that the chain itself makes and gives of
the record with the attributes in front. Each kind of stage keeps its attributes in its own way. At
those that merge, a leaf and a redaction stage, this is the law that attributes can be merged in two
parts (`Scope.resolve_bind`).
-/

namespace LogPipeline

/-- The record with more attributes in front of its own. -/
def Record.prepend (r : Record) (attrs : List Attr) : Record := { r with attrs := attrs ++ r.attrs }

variable {s : Scope} {r : Record} {as bs : List Attr} {w w' : World} {l : Logger}

/-! ## Scopes -/

theorem Scope.resolve_bind (s : Scope) (as bs : List Attr) :
    (s.bind as).resolve bs = s.resolve (as ++ bs) :=
  (mergeAt_append s.groups as bs s.bound).symm

theorem Scope.bind_bind (s : Scope) (as bs : List Attr) :
    (s.bind as).bind bs = s.bind (as ++ bs) := by
  simp only [bind, mergeAt_append]

/-! ## Stages -/

theorem Formatter.line_bind (f : Formatter) (as : List Attr) (r : Record) :
    ({ f with scope := f.scope.bind as } : Formatter).line r = f.line (r.prepend as) := by
  have hresolve := f.scope.resolve_bind as r.attrs
  cases hencoding : f.encoding <;> simp only [Formatter.line, hencoding, hresolve] <;> rfl

theorem Formatter.handle_bind (f : Formatter) (as : List Attr) (r : Record) (w : World) :
    ({ f with scope := f.scope.bind as } : Formatter).handle r w = f.handle (r.prepend as) w := by
  rw [Formatter.handle, Formatter.handle, f.line_bind]
  rfl

/-- The call stack comes behind all attributes, wherever they are bound. -/
theorem StackRule.augment_prepend (rule : StackRule) (r : Record) (as : List Attr) (w : World) :
    rule.augment (r.prepend as) w = (rule.augment r w).prepend as := by
  have hlevel : (r.prepend as).level = r.level := rfl
  rw [augment, augment, hlevel]
  split
  · rfl
  · simp [Record.prepend, Record.append]

theorem redacted_bind (keys : KeySet) (s : Scope) (as : List Attr) (r : Record) :
    redacted keys (s.bind as) r = redacted keys s (r.prepend as) := by
  rw [redacted_eq, redacted_eq, Scope.resolve_bind]
  rfl

/-! ## Chains -/

mutual

/-- A derivation does not change what a chain lets through. -/
theorem Handler.enabled_derive (w : World) (level : Level) (d : Derivation) :
    ∀ h : Handler, (h.derive d).enabled w level = h.enabled w level
  | .format _ => rfl
  | .recorder _ => rfl
  | .stack _ next => by
    rw [Handler.derive, Handler.enabled, Handler.enabled, next.enabled_derive w level d]
  | .redaction _ _ next => by
    rw [Handler.derive, Handler.enabled, Handler.enabled]
  | .fanout children => by
    rw [Handler.derive, Handler.enabled, Handler.enabled,
      Handler.anyEnabled_deriveAll w level d children]

theorem Handler.anyEnabled_deriveAll (w : World) (level : Level) (d : Derivation) :
    ∀ hs : List Handler,
      Handler.anyEnabled w level (Handler.deriveAll d hs) = Handler.anyEnabled w level hs
  | [] => rfl
  | h :: rest => by
    rw [Handler.deriveAll, Handler.anyEnabled, Handler.anyEnabled, h.enabled_derive w level d,
      Handler.anyEnabled_deriveAll w level d rest]

end

mutual

theorem Handler.handle_bind (as : List Attr) : ∀ h : Handler, h.NoRecorder →
    ∀ (r : Record) (w : World), (h.bind as).handle r w = h.handle (r.prepend as) w
  | .format f, _, r, w => f.handle_bind as r w
  | .stack rule next, h, r, w => by
    rw [Handler.handle, rule.augment_prepend]
    exact Handler.handle_bind as next h _ w
  | .redaction keys scope next, _, r, w => by
    rw [Handler.handle, ← redacted_bind]
    rfl
  | .fanout children, h, r, w => by
    rw [Handler.handle]
    exact Handler.handleAll_bind as children h r w

theorem Handler.handleAll_bind (as : List Attr) : ∀ hs : List Handler, Handler.NoRecorders hs →
    ∀ (r : Record) (w : World), Handler.handleAll (Handler.deriveAll (.attrs as) hs) r w =
      Handler.handleAll hs (r.prepend as) w
  | [], _, _, _ => rfl
  | h :: rest, hh, r, w => by
    have hfirst : (h.derive (.attrs as)).handle r w = _ := Handler.handle_bind as h hh.1 r w
    have hrest := Handler.handleAll_bind as rest hh.2 r
    rw [Handler.deriveAll, Handler.handleAll, Handler.handleAll, hfirst]
    simp only [hrest]

end

mutual

theorem Handler.writes_bind (as : List Attr) : ∀ h : Handler, h.NoRecorder →
    ∀ (r : Record) (w : World), (h.bind as).writes r w = h.writes (r.prepend as) w
  | .format f, _, r, w => by
    rw [Handler.writes, ← f.line_bind]
    rfl
  | .stack rule next, h, r, w => by
    rw [Handler.writes, rule.augment_prepend]
    exact Handler.writes_bind as next h _ w
  | .redaction keys scope next, _, r, w => by
    rw [Handler.writes, ← redacted_bind]
    rfl
  | .fanout children, h, r, w => by
    rw [Handler.writes]
    exact Handler.writesAll_bind as children h r w

theorem Handler.writesAll_bind (as : List Attr) : ∀ hs : List Handler, Handler.NoRecorders hs →
    ∀ (r : Record) (w : World), Handler.writesAll (Handler.deriveAll (.attrs as) hs) r w =
      Handler.writesAll hs (r.prepend as) w
  | [], _, _, _ => rfl
  | h :: rest, hh, r, w => by
    have hfirst : (h.derive (.attrs as)).writes r w = _ := Handler.writes_bind as h hh.1 r w
    have hhandled : (h.derive (.attrs as)).handle r w = _ := Handler.handle_bind as h hh.1 r w
    rw [Handler.deriveAll, Handler.writesAll, Handler.writesAll, hfirst, hhandled,
      Handler.writesAll_bind as rest hh.2 r]

end

mutual

/-- Attributes bound one list after the other are bound as one list. -/
theorem Handler.bind_bind (as bs : List Attr) : ∀ h : Handler, h.NoRecorder →
    (h.bind as).bind bs = h.bind (as ++ bs)
  | .format f, _ => by
    simp only [Handler.bind, Handler.derive, Scope.derive, Scope.bind_bind]
  | .stack rule next, h => congrArg (Handler.stack rule) (Handler.bind_bind as bs next h)
  | .redaction keys scope next, _ => by
    simp only [Handler.bind, Handler.derive, Scope.derive, Scope.bind_bind]
  | .fanout children, h => congrArg Handler.fanout (Handler.deriveAll_bind_bind as bs children h)

theorem Handler.deriveAll_bind_bind (as bs : List Attr) : ∀ hs : List Handler,
    Handler.NoRecorders hs → Handler.deriveAll (.attrs bs) (Handler.deriveAll (.attrs as) hs) =
      Handler.deriveAll (.attrs (as ++ bs)) hs
  | [], _ => rfl
  | h :: rest, hh => by
    have hfirst : (h.derive (.attrs as)).derive (.attrs bs) = _ := Handler.bind_bind as bs h hh.1
    rw [Handler.deriveAll, Handler.deriveAll, Handler.deriveAll, hfirst,
      Handler.deriveAll_bind_bind as bs rest hh.2]
    rfl

end

/-! ## Loggers -/

/-- The chain of a logger with attributes bound; with none it is the logger's own. -/
theorem Logger.handler_bind (l : Logger) (as : List Attr) (w : World) :
    (l.bind as w).1.handler = if as.isEmpty then l.handler else l.handler.bind as := by
  rw [Logger.bind]
  split <;> rfl

theorem Logger.log_bind (hl : l.handler.NoRecorder) (as bs : List Attr) (level : Level)
    (message : String) (source : Source) (w w' : World) :
    (l.bind as w').1.log level message bs source w = l.log level message (as ++ bs) source w := by
  rw [Logger.log, Logger.log, Logger.enabled, Logger.enabled, l.handler_bind]
  split
  · rename_i hempty
    rw [List.isEmpty_iff.mp hempty, List.nil_append]
  · rw [Handler.bind, Handler.enabled_derive, ← Handler.bind, Handler.handle_bind as _ hl]
    rfl

/-- **Binding is prepending.** Of any chain over leaves that write, whatever has been bound and
opened before: the chain with attributes bound makes of every record the writes, in their order, and
gives the result, that the chain itself makes and gives of the record with these attributes in front
of its own, and it leaves the same state. So two bindings are one, and what a logger with attributes
bound logs is what the logger itself logs with the attributes in front. -/
theorem bind_prepends {h : Handler} (hh : h.NoRecorder) :
    (∀ (as : List Attr) (r : Record) (w : World),
      (h.bind as).writes r w = h.writes (r.prepend as) w ∧
        (h.bind as).handle r w = h.handle (r.prepend as) w ∧
        (h.bind as).handle r w = perform (h.writes (r.prepend as) w) w) ∧
      (∀ as bs : List Attr, (h.bind as).bind bs = h.bind (as ++ bs)) ∧
      ∀ l : Logger, l.handler = h → ∀ (as bs : List Attr) (level : Level) (message : String)
        (source : Source) (w w' : World),
        (l.bind as w').1.log level message bs source w =
          l.log level message (as ++ bs) source w := by
  refine ⟨fun as r w => ?_, fun as bs => h.bind_bind as bs hh, ?_⟩
  · have hhandle := h.handle_bind as hh r w
    exact ⟨h.writes_bind as hh r w, hhandle, hhandle.trans (h.handle_eq_perform hh _ w)⟩
  · rintro l rfl as bs level message source w w'
    exact l.log_bind hh as bs level message source w w'

/-- Behind a fan-out, a leaf below a call stack that refuses every write, and a redaction stage with
an attribute bound and its group still open. -/
theorem bind_prepends_fanout :
    let h : Handler := .fanout [
      .stack ⟨.warn, 8⟩ (.format ⟨.device 3, .json, 0, false, .empty⟩),
      .redaction 1 ⟨[⟨"request", .group [⟨"id", .int 7⟩]⟩], ["request"]⟩
        (.format ⟨.buffer 2, .text, 0, true, .empty⟩)]
    h.NoRecorder ∧ ∀ (r : Record) (w : World),
      (h.bind [⟨"token", .str "x"⟩]).handle r w = h.handle (r.prepend [⟨"token", .str "x"⟩]) w := by
  intro h
  have hh : h.NoRecorder := ⟨trivial, trivial, trivial⟩
  exact ⟨hh, fun r w => ((bind_prepends hh).1 _ r w).2.1⟩

end LogPipeline
