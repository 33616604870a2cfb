import LogPipeline.Logger.Basic

/-!
# What a chain writes

The writes that a record leads to, sink by sink and in order (`Handler.writes`). For a chain without
recorders they are all there is to handling the record: the state afterwards and the result are those
of making these writes one after the other (`handle_eq_perform`).
-/

namespace LogPipeline

/-- A write to a sink. -/
structure SinkWrite where
  sink : Sink
  bytes : Bytes
  deriving DecidableEq, Repr

/-- Makes writes in order, whether or not one before fails; the result is the first failure. -/
def perform : List SinkWrite → World → Delivery
  | [], w => (.ok (), w)
  | x :: rest, w =>
    let (first, w) := x.sink.write x.bytes w
    let (others, w) := perform rest w
    (match first with
      | .error e => .error (.io e)
      | .ok _ => others, w)

namespace Handler

mutual

/-- The writes that handling a record leads to. -/
def writes : Handler → Record → World → List SinkWrite
  | .format f, r, w => if w.allows f.threshold r.level then [⟨f.sink, f.line r⟩] else []
  | .recorder _, _, _ => []
  | .stack rule next, r, w => next.writes (rule.augment r w) w
  | .redaction keys scope next, r, w => next.writes (redacted (w.keys keys) scope r) w
  | .fanout children, r, w => writesAll children r w

def writesAll : List Handler → Record → World → List SinkWrite
  | [], _, _ => []
  | h :: rest, r, w => h.writes r w ++ writesAll rest r (h.handle r w).2

end

mutual

/-- No leaf of the chain is a recorder. -/
def NoRecorder : Handler → Prop
  | .format _ => True
  | .recorder _ => False
  | .stack _ next | .redaction _ _ next => next.NoRecorder
  | .fanout children => NoRecorders children

def NoRecorders : List Handler → Prop
  | [] => True
  | h :: rest => h.NoRecorder ∧ NoRecorders rest

end

end Handler

variable {w : World} {r : Record}

/-- Writes made in two parts: a failure in the first part counts before one in the second. -/
theorem perform_append (xs ys : List SinkWrite) (w : World) :
    perform (xs ++ ys) w =
      (match (perform xs w).1 with
        | .error e => .error e
        | .ok () => (perform ys (perform xs w).2).1, (perform ys (perform xs w).2).2) := by
  induction xs generalizing w with
  | nil => rfl
  | cons x xs ih =>
    simp only [List.cons_append, perform, ih]
    cases (x.sink.write x.bytes w).1 <;> rfl

theorem Formatter.handle_eq_perform (f : Formatter) (r : Record) (w : World) :
    f.handle r w = perform ((Handler.format f).writes r w) w := by
  rw [Formatter.handle, Handler.writes]
  split
  · simp only [perform]
    cases (f.sink.write (f.line r) w).1 <;> rfl
  · rfl

mutual

/-- **Handling a record is making its writes.** -/
theorem Handler.handle_eq_perform : ∀ h : Handler, h.NoRecorder →
    ∀ (r : Record) (w : World), h.handle r w = perform (h.writes r w) w
  | .format f, _, r, w => by rw [Handler.handle, f.handle_eq_perform]
  | .stack rule next, h, r, w => by
    rw [Handler.handle, Handler.writes]
    exact Handler.handle_eq_perform next h _ w
  | .redaction keys scope next, h, r, w => by
    rw [Handler.handle, Handler.writes]
    exact Handler.handle_eq_perform next h _ w
  | .fanout children, h, r, w => by
    rw [Handler.handle, Handler.writes]
    exact Handler.handleAll_eq_perform children h r w

theorem Handler.handleAll_eq_perform : ∀ hs : List Handler, Handler.NoRecorders hs →
    ∀ (r : Record) (w : World), Handler.handleAll hs r w = perform (Handler.writesAll hs r w) w
  | [], _, _, _ => rfl
  | h :: rest, hh, r, w => by
    have hfirst := Handler.handle_eq_perform h hh.1 r w
    have hrest := Handler.handleAll_eq_perform rest hh.2 r (h.handle r w).2
    have happend := perform_append (h.writes r w) (Handler.writesAll rest r (h.handle r w).2) w
    rw [← hfirst, ← hrest] at happend
    exact happend.symm

end

end LogPipeline
