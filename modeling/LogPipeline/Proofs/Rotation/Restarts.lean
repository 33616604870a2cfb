import LogPipeline.Proofs.Rotation.Opening

/-!
# Closing and opening again

A rotating file that is closed between two writes, and opened again with the same limits, is what it
was: it has the file open that it had, and takes over what the file holds as its size
(`Attached.create_again`). Only the counts of rotations begin again, and no write depends on them
(`Attached.write_counts`). So however often that is done, the writes give the same results and leave
the same files (`restarts_invisible`).
-/

namespace LogPipeline.Rotator

open FileSystem

/-- What is done with a rotating file: it is written to, or closed and opened again. -/
inductive Task where
  | write (c : Call)
  | restart
  deriving DecidableEq, Repr

/-- The write that it is. -/
def Task.call? : Task → Option Call
  | .write c => some c
  | .restart => none

namespace History

/-- The file is closed, and opened again under its path and with its limits. -/
def restart (s : History) : Except SetupError History :=
  let r := s.rotator.close
  match create r.path r.maxSize r.maxBackups s.files with
  | (.error e, _) => .error e
  | (.ok r, fs) => .ok { s with rotator := r, files := fs }

/-- One task; a file that cannot be opened again is the end. -/
def perform (s : History) : Task → Except SetupError History
  | .write c => .ok (s.step c)
  | .restart => s.restart

/-- Tasks in order, as long as the file can be opened again. -/
def performs (s : History) (tasks : List Task) : Except SetupError History :=
  tasks.foldlM perform s

theorem performs_cons (s : History) (task : Task) (tasks : List Task) :
    s.performs (task :: tasks) = s.perform task >>= (·.performs tasks) :=
  List.foldlM_cons

/-- The same, with other counts of rotations. -/
def recount (s : History) (rotations failures : Nat) : History :=
  { s with rotator := { s.rotator with rotations, failures } }

end History

variable {r : Rotator} {s : History} {c : Call} {tasks : List Task} {fs fs₀ : FileSystem}
  {dir : Location} {path name : String} {number maxSize maxBackups : Nat}

/-! ## Opening again -/

/-- Where a path leads, its directory is there and need not be made. -/
theorem makeHome_of_place (h : fs.place path = .ok ⟨dir, .name name, false⟩) :
    makeHome path fs = (.ok (), fs) := by
  obtain ⟨-, hne, hnul, hsize, hfollow, -⟩ := directory_spec h
  have hfind := find_dir hne hnul hsize hfollow
  unfold makeHome
  dsimp only
  split_ifs with hempty
  · rfl
  · have hdirectory : directory path = (Path.parent? path).getD "" := by
      unfold directory
      cases hparent : Path.parent? path with
      | none => simp [hparent] at hempty
      | some d =>
        have hne : d.isEmpty = false := by simpa [hparent] using hempty
        simp [hne]
    rw [← hdirectory]
    exact makeDirs_of_isDir (by rw [isDir, hfind])

/-- Opening the file again gives what there was, with the counts at zero. -/
theorem Attached.create_again (h : r.Attached fs dir name number) :
    create r.path r.maxSize r.maxBackups fs =
      (.ok { r with rotations := 0, failures := 0 }, fs) := by
  rw [create_iff]
  refine ⟨fs, number, makeHome_of_place h.place, openAppend_file h.place h.short h.node, ?_⟩
  rw [← h.size, ← h.handle, ← h.running]

/-! ## The counts -/

/-- What a write does is the same whatever the counts are. -/
theorem Attached.write_counts (h : r.Attached fs dir name number) (t : Timestamp) (bytes : Bytes)
    (rotations failures : Nat) :
    ∃ rotations' failures', Rotator.write { r with rotations, failures } t bytes fs =
      ((r.write t bytes fs).1,
        { (r.write t bytes fs).2.1 with rotations := rotations', failures := failures' },
        (r.write t bytes fs).2.2) := by
  have h' := h.recount rotations failures
  cases hdue : r.isDue bytes.length with
  | false =>
    rw [h.write_small hdue, h'.write_small hdue]
    exact ⟨_, _, rfl⟩
  | true =>
    by_cases hok : (fs.rename r.path (backupPath r.path t fs)).1 = .ok ()
    · obtain ⟨-, -, -, -, -, -, hwrite⟩ := h.write_due hdue hok
      obtain ⟨-, -, -, -, -, -, hwrite'⟩ := h'.write_due hdue hok
      rw [hwrite, hwrite']
      exact ⟨_, _, rfl⟩
    · rw [h.write_blocked hdue hok, h'.write_blocked hdue hok]
      exact ⟨_, _, rfl⟩

theorem Attached.step_recount (h : s.rotator.Attached s.files dir name number)
    (c : Call) (rotations failures : Nat) : ∃ rotations' failures',
      (s.recount rotations failures).step c = (s.step c).recount rotations' failures' := by
  obtain ⟨rotations', failures', hwrite⟩ := h.write_counts c.now c.bytes rotations failures
  refine ⟨rotations', failures', ?_⟩
  have hmove : (s.recount rotations failures).move? c = s.move? c := rfl
  unfold History.step
  rw [hmove]
  simp only [History.recount, hwrite]

/-! ## A run -/

/-- A restart changes nothing but the counts. -/
theorem Attached.restart (h : s.rotator.Attached s.files dir name number)
    (rotations failures : Nat) : (s.recount rotations failures).restart = .ok (s.recount 0 0) := by
  have hcreate : create s.rotator.path s.rotator.maxSize s.rotator.maxBackups s.files =
      (.ok { s.rotator with rotations := 0, failures := 0 }, s.files) := h.create_again
  unfold History.restart
  simp only [History.recount, close, hcreate]

/-- What the tasks come to is what the writes among them come to, but for the counts. -/
theorem Settled.performs (h : Settled s.rotator s.files dir name)
    (hrunning : s.rotator.closed = false) (tasks : List Task) (rotations failures : Nat) :
    ∃ rotations' failures', (s.recount rotations failures).performs tasks =
      .ok ((s.writes (tasks.filterMap Task.call?)).recount rotations' failures') := by
  induction tasks generalizing s rotations failures with
  | nil => exact ⟨rotations, failures, rfl⟩
  | cons task tasks ih =>
    obtain ⟨number, hattached⟩ := h.attached hrunning
    rw [History.performs_cons]
    cases task with
    | restart =>
      rw [History.perform, hattached.restart]
      exact ih h hrunning 0 0
    | write c =>
      obtain ⟨rotations', failures', hstep⟩ := hattached.step_recount c rotations failures
      rw [History.perform, hstep]
      exact ih (h.write c.now c.bytes).1 (hattached.running_write c.now c.bytes) rotations' failures'

/-- **Restarts are not to be seen in the files.** A file is opened in any directory and with any
limits, and written to; each time before a write, or at the end, it may be closed and opened again,
once or several times. It can be opened each time, the writes give the results that they give without
that, and the same is in the file system then. As what has been done up to some point is a run as
well, this holds at every point. -/
theorem restarts_invisible (hs : fs₀.Sound) (hnamed : fs₀.Named)
    (hopen : create path maxSize maxBackups fs₀ = (.ok r, fs)) (tasks : List Task) :
    let s := (opened r fs).writes (tasks.filterMap Task.call?)
    ∃ t, (opened r fs).performs tasks = .ok t ∧ t.results = s.results ∧ t.files = s.files ∧
      t.moves = s.moves ∧ t.rotator.size = s.rotator.size := by
  obtain ⟨dir, name, number, hr, rfl, -, -⟩ := create_ok hs hopen
  obtain ⟨rotations, failures, hrun⟩ :=
    (settled_create hs hnamed hopen hr.place).performs (s := opened _ fs) hr.running tasks 0 0
  exact ⟨_, hrun, rfl, rfl, rfl, rfl⟩

/-- A file that is opened again while it is empty, after a payload that is larger than a file may be,
and twice in a row. -/
theorem restarts_invisible_oversize :
    let s := opened ⟨"app.log", 2, 0, some 0, 0, false, 0, 0⟩ (FileSystem.empty.newFile ["app.log"])
    let tasks : List Task := [.restart, .write ⟨0, [1, 2, 3]⟩, .restart, .write ⟨0, [4]⟩, .restart,
      .restart, .write ⟨1000000000, [5, 6]⟩]
    ∃ t, s.performs tasks = .ok t ∧ t.results = [.ok 3, .ok 1, .ok 2] ∧
      t.moves = [⟨"app.log.19700101T000000", 0, 0⟩, ⟨"app.log.19700101T000000.001", 1, 0⟩,
        ⟨"app.log.19700101T000001", 2, 1⟩] ∧
      t.files.read "app.log" = .ok [5, 6] := by
  intro s tasks
  have hopen : create "app.log" 2 0 .empty = (.ok s.rotator, s.files) := rfl
  obtain ⟨t, ht, hresults, hfiles, hmoves, -⟩ :=
    restarts_invisible Sound.empty Named.empty hopen tasks
  have hcalls : tasks.filterMap Task.call? =
      [⟨0, [1, 2, 3]⟩, ⟨0, [4]⟩, ⟨1000000000, [5, 6]⟩] := rfl
  rw [hcalls] at hresults hfiles hmoves
  refine ⟨t, ht, hresults.trans (by decide +kernel), hmoves.trans (by decide +kernel), ?_⟩
  rw [hfiles]
  decide +kernel

end LogPipeline.Rotator
