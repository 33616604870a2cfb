import LogPipeline.Logger.Basic

/-!
# What delivering a record changes

A record that goes through a chain changes what the sinks of the chain hold and nothing else
(`Handler.handle_keeps`, `Written`): no sink is opened or closed, and no threshold and no set of keys
is touched. Where every sink of a chain is `Idle`, because it is no file or is closed, no file is
touched either.
-/

namespace LogPipeline

/-- A sink whose closings are counted, by its number. -/
inductive Closable where
  | buffer (number : Nat)
  /-- An opened file, rotating or not. -/
  | file (number : Nat)
  deriving DecidableEq, Repr

/-- How often a sink was closed. -/
def World.closes (w : World) : Closable → Nat
  | .buffer n => ((w.buffers.find? n).getD default).closes
  | .file n => (w.fileCloses.find? n).getD 0

/-- How often a device was written to, if there is one of the number. -/
def World.attempts? (w : World) (n : Nat) : Option Nat := (w.devices.find? n).map (·.attempts)

/-- Whether a rotating file is closed, if there is one of the number. -/
def World.closedRotator? (w : World) (n : Nat) : Option Bool := (w.rotators.find? n).map (·.closed)

/-- What writing to sinks leaves alone. -/
structure Written (w w' : World) : Prop where
  next : w'.next = w.next
  clock : w'.clock = w.clock
  callStack : w'.callStack = w.callStack
  levels : w'.levels = w.levels
  keySets : w'.keySets = w.keySets
  appenders : w'.appenders = w.appenders
  closes : ∀ c, w'.closes c = w.closes c
  rotators : ∀ n, w'.closedRotator? n = w.closedRotator? n

/-- The sink at the end of those that hand on to another. -/
def Sink.base : Sink → Sink
  | .colored _ inner => inner.base
  | sink => sink

/-- Writing to the sink reaches no file. -/
def Sink.Idle (w : World) (sink : Sink) : Prop :=
  match sink.base with
  | .appender n => (w.appenders.find? n).bind (·.handle) = none
  | .rotator n => w.closedRotator? n ≠ some false
  | _ => True

/-- The sink is no file, nor does it hand on to one. -/
def Sink.Fileless (sink : Sink) : Prop :=
  match sink.base with
  | .appender _ | .rotator _ => False
  | _ => True

namespace Handler

mutual

/-- The sinks at the leaves of a chain. -/
def sinks : Handler → List Sink
  | .format f => [f.sink]
  | .recorder _ => []
  | .stack _ next | .redaction _ _ next => next.sinks
  | .fanout children => sinksAll children

def sinksAll : List Handler → List Sink
  | [] => []
  | h :: rest => h.sinks ++ sinksAll rest

end

end Handler

variable {w w' w'' : World} {sink : Sink} {h : Handler} {l : Logger}

/-! ## Writing to a sink -/

theorem Written.refl (w : World) : Written w w :=
  ⟨rfl, rfl, rfl, rfl, rfl, rfl, fun _ => rfl, fun _ => rfl⟩

theorem Written.trans (h : Written w w') (h' : Written w' w'') : Written w w'' where
  next := h'.next.trans h.next
  clock := h'.clock.trans h.clock
  callStack := h'.callStack.trans h.callStack
  levels := h'.levels.trans h.levels
  keySets := h'.keySets.trans h.keySets
  appenders := h'.appenders.trans h.appenders
  closes c := (h'.closes c).trans (h.closes c)
  rotators n := (h'.rotators n).trans (h.rotators n)

namespace Rotator

variable (r : Rotator) (t : Timestamp) (bytes : Bytes) (fs : FileSystem)

theorem closed_reopen : (r.reopen fs).2.1.closed = r.closed := by
  unfold reopen
  split <;> rfl

theorem closed_ensureOpen : (r.ensureOpen fs).2.1.closed = r.closed := by
  unfold ensureOpen
  split
  · rfl
  · exact closed_reopen r fs

theorem closed_put : (r.put bytes fs).2.1.closed = r.closed := by
  unfold put
  split <;> rfl

theorem closed_rotate : (r.rotate t fs).2.1.closed = r.closed := by
  unfold rotate
  dsimp only
  split
  · rename_i fs' _
    have h := closed_reopen { r with handle := none } fs'
    split
    · rename_i hr
      rw [hr] at h
      exact h
    · rename_i hr
      rw [hr] at h
      exact h
  · split <;> rfl

theorem closed_rotateCounted : (r.rotateCounted t fs).1.closed = r.closed := by
  have h := closed_rotate r t fs
  unfold rotateCounted
  split
  · rename_i hr
    rw [hr] at h
    exact h
  · rename_i hr
    rw [hr] at h
    exact h

/-- A write neither closes a rotating file nor opens one that is closed. -/
theorem closed_write : (r.write t bytes fs).2.1.closed = r.closed := by
  unfold write
  split
  · rfl
  have hopen := closed_ensureOpen r fs
  split
  · rename_i he
    rw [he] at hopen
    exact hopen
  · rename_i r₁ fs₁ he
    rw [he] at hopen
    dsimp only at hopen ⊢
    split
    · have hrotated := closed_rotateCounted r₁ t fs₁
      have hagain := closed_ensureOpen (r₁.rotateCounted t fs₁).1 (r₁.rotateCounted t fs₁).2
      split
      · rename_i he₂
        rw [he₂] at hagain
        exact hagain.trans (hrotated.trans hopen)
      · rename_i he₂
        rw [he₂] at hagain
        exact (closed_put _ _ _).trans (hagain.trans (hrotated.trans hopen))
    · exact (closed_put _ _ _).trans hopen

theorem write_of_closed (h : r.closed = true) : r.write t bytes fs = (.error .closed, r, fs) := by
  rw [write, if_pos h]

end Rotator

theorem Written.of_rotators {rotators : Table Rotator} {files : FileSystem}
    (h : ∀ n, (rotators.find? n).map (·.closed) = w.closedRotator? n) :
    Written w { w with rotators, files } :=
  ⟨rfl, rfl, rfl, rfl, rfl, rfl, fun _ => rfl, h⟩

theorem Sink.written_write (sink : Sink) (bytes : Bytes) (w : World) :
    Written w (sink.write bytes w).2 := by
  induction sink generalizing bytes with
  | console n => exact ⟨rfl, rfl, rfl, rfl, rfl, rfl, fun _ => rfl, fun _ => rfl⟩
  | discard n => exact .refl w
  | buffer n =>
    refine ⟨rfl, rfl, rfl, rfl, rfl, rfl, fun c => ?_, fun _ => rfl⟩
    cases c with
    | file m => rfl
    | buffer m =>
      simp only [Sink.write, World.closes, Table.find?_put]
      split
      · rename_i hm
        rw [hm]
        rfl
      · rfl
  | appender n =>
    rw [Sink.write]
    split
    · exact .refl w
    · exact ⟨rfl, rfl, rfl, rfl, rfl, rfl, fun _ => rfl, fun _ => rfl⟩
  | rotator n =>
    rw [Sink.write]
    split
    · exact .refl w
    · rename_i r hr
      refine .of_rotators fun m => ?_
      rw [Table.find?_put, World.closedRotator?]
      split
      · rename_i hm
        rw [← hm, hr]
        exact congrArg some (r.closed_write w.now bytes w.files)
      · rfl
  | device n =>
    rw [Sink.write]
    split
    · exact .refl w
    · exact ⟨rfl, rfl, rfl, rfl, rfl, rfl, fun _ => rfl, fun _ => rfl⟩
  | colored n inner ih =>
    rw [Sink.write]
    split
    · exact ih bytes
    · exact ih _

/-- A write is an attempt on the device at the end, whether it takes the octets or not. -/
theorem Sink.attempts?_write (sink : Sink) (bytes : Bytes) (w : World) (n : Nat) :
    (sink.write bytes w).2.attempts? n =
      (w.attempts? n).map (· + if sink.base = .device n then 1 else 0) := by
  induction sink generalizing bytes with
  | console m | discard m | buffer m =>
    simp [Sink.write, World.writeConsole, World.attempts?, Sink.base, Function.comp_def]
  | appender m | rotator m =>
    rw [Sink.write]
    split <;> simp [World.attempts?, Sink.base, Function.comp_def]
  | device m =>
    rw [Sink.write]
    by_cases hm : m = n
    · subst hm
      cases hd : w.devices.find? m <;> simp [World.attempts?, Sink.base, Table.find?_put, hd]
    · split <;> simp [World.attempts?, Sink.base, Table.find?_put, hm, Function.comp_def]
  | colored m inner ih =>
    rw [Sink.write]
    split
    · exact ih bytes
    · exact ih _

theorem Sink.Fileless.idle (h : sink.Fileless) (w : World) : sink.Idle w := by
  unfold Sink.Fileless at h
  unfold Sink.Idle
  split at h
  · exact h.elim
  · exact h.elim
  · trivial

theorem Written.idle (h : Written w w') (hidle : sink.Idle w) : sink.Idle w' := by
  simpa only [Sink.Idle, h.appenders, h.rotators] using hidle

/-- A write to an idle sink changes no file. -/
theorem Sink.Idle.files_write (h : sink.Idle w) (bytes : Bytes) :
    (sink.write bytes w).2.files = w.files := by
  induction sink generalizing bytes with
  | console n | discard n | buffer n => rfl
  | appender n => rw [Sink.write, show (w.appenders.find? n).bind (·.handle) = none from h]
  | rotator n =>
    rw [Sink.write]
    split
    · rfl
    · rename_i r hr
      have hclosed : r.closed = true := by
        simpa [Sink.Idle, Sink.base, World.closedRotator?, hr] using h
      rw [r.write_of_closed _ _ _ hclosed]
  | device n =>
    rw [Sink.write]
    split <;> rfl
  | colored n inner ih =>
    rw [Sink.write]
    split
    · exact ih h bytes
    · exact ih h _

/-! ## Delivering to a chain -/

/-- A relation that is kept through several steps, and by recorders. -/
structure Handler.Lasting (R : World → World → Prop) : Prop where
  refl : ∀ w, R w w
  trans : ∀ {a b c}, R a b → R b c → R a c
  received : ∀ (w : World) (t : Table (List Received)), R w { w with received := t }

variable {R : World → World → Prop}

mutual

/-- Delivering a record is a series of writes to the sinks of the chain, apart from what recorders
keep: what all of these keep is kept. -/
theorem Handler.handle_keeps (hR : Handler.Lasting R) : ∀ h : Handler,
    (∀ sink ∈ h.sinks, ∀ bytes w, R w (sink.write bytes w).2) → ∀ r w, R w (h.handle r w).2
  | .format f, hwrite, r, w => by
    rw [Handler.handle, Formatter.handle]
    split
    · exact hwrite f.sink (by simp [Handler.sinks]) _ w
    · exact hR.refl w
  | .recorder k, _, r, w => hR.received w _
  | .stack rule next, hwrite, r, w => by
    rw [Handler.handle]
    exact Handler.handle_keeps hR next (by simpa [Handler.sinks] using hwrite) _ w
  | .redaction keys scope next, hwrite, r, w => by
    rw [Handler.handle]
    exact Handler.handle_keeps hR next (by simpa [Handler.sinks] using hwrite) _ w
  | .fanout children, hwrite, r, w => by
    rw [Handler.handle]
    exact Handler.handleAll_keeps hR children (by simpa [Handler.sinks] using hwrite) r w

theorem Handler.handleAll_keeps (hR : Handler.Lasting R) : ∀ hs : List Handler,
    (∀ sink ∈ Handler.sinksAll hs, ∀ bytes w, R w (sink.write bytes w).2) →
      ∀ r w, R w (Handler.handleAll hs r w).2
  | [], _, _, w => hR.refl w
  | h :: rest, hwrite, r, w => by
    rw [Handler.handleAll]
    have hfirst := Handler.handle_keeps hR h
      (fun sink hs => hwrite sink (by simp [Handler.sinksAll, hs])) r w
    have hrest := Handler.handleAll_keeps hR rest
      (fun sink hs => hwrite sink (by simp [Handler.sinksAll, hs])) r (h.handle r w).2
    exact hR.trans hfirst hrest

end

theorem Written.received (w : World) (t : Table (List Received)) :
    Written w { w with received := t } :=
  ⟨rfl, rfl, rfl, rfl, rfl, rfl, fun _ => rfl, fun _ => rfl⟩

theorem Handler.written_handle (h : Handler) (r : Record) (w : World) :
    Written w (h.handle r w).2 :=
  Handler.handle_keeps ⟨.refl, .trans, .received⟩ h (fun sink _ => sink.written_write) r w

/-- A chain whose sinks are all idle changes no file. -/
theorem Handler.files_handle (hidle : ∀ sink ∈ h.sinks, sink.Idle w) (r : Record) :
    (h.handle r w).2.files = w.files := by
  -- an idle sink stays so while others are written to
  let R (a b : World) : Prop := (∀ sink ∈ h.sinks, sink.Idle a) →
    b.files = a.files ∧ ∀ sink ∈ h.sinks, sink.Idle b
  have htrans : ∀ {a b c}, R a b → R b c → R a c := by
    intro a b c hab hbc ha
    obtain ⟨hfiles, hb⟩ := hab ha
    obtain ⟨hfiles', hc⟩ := hbc hb
    exact ⟨hfiles'.trans hfiles, hc⟩
  have hR : Handler.Lasting R := ⟨fun _ ha => ⟨rfl, ha⟩, htrans, fun a t ha =>
    ⟨rfl, fun sink hs => (Written.received a t).idle (ha sink hs)⟩⟩
  have hwrite : ∀ sink ∈ h.sinks, ∀ bytes a, R a (sink.write bytes a).2 := by
    intro sink hsink bytes a ha
    exact ⟨(ha sink hsink).files_write bytes,
      fun other ho => (sink.written_write bytes a).idle (ha other ho)⟩
  exact (Handler.handle_keeps hR h hwrite r w hidle).1

/-! ## Logging -/

theorem Logger.written_logRecord (l : Logger) (r : Record) (w : World) :
    Written w (l.logRecord r w) := by
  unfold Logger.logRecord
  split
  · exact l.handler.written_handle r w
  · exact .refl w

theorem Logger.files_logRecord (hidle : ∀ sink ∈ l.handler.sinks, sink.Idle w) (r : Record) :
    (l.logRecord r w).files = w.files := by
  unfold Logger.logRecord
  split
  · exact Handler.files_handle hidle r
  · rfl

end LogPipeline
