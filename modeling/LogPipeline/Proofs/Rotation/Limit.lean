import LogPipeline.Proofs.Rotation.Opening

/-!
# How many files are kept

What a rotating file that keeps a number of the files moved away makes of the entries that begin
with its name and a point, whatever stands there at first and wherever the clock goes. A rotation
adds one and leaves at most that number, and nothing else changes how many there are
(`Limited.count_step`); so from the first rotation on there are never more (`backups_bounded`).
Nothing but such entries is removed, and where they are files, removing them does not fail
(`Attached.succeeds`).
-/

namespace LogPipeline.Rotator

open FileSystem

/-- How many entries of a directory begin with a name and a point. -/
def backupCount (fs : FileSystem) (dir : Location) (name : String) : Nat :=
  ((fs.namesIn dir).filter (isBackup name)).length

/-- The files moved away that are too many. -/
def excess (path : String) (keep : Nat) (fs : FileSystem) : List String :=
  (backups path fs).take ((backups path fs).length - keep)

/-- No call fails while files are removed one after the other. -/
def Removes (fs : FileSystem) : List String → Prop
  | [] => True
  | path :: paths => (fs.removeFile path).1 = .ok () ∧ Removes (fs.removeFile path).2 paths

namespace History

/-- No call to the file system fails while a write is made, those that remove files among them. -/
structure Succeeds (s : History) (c : Call) : Prop where
  passes : s.Passes c
  removes : s.rotator.isDue c.bytes.length = true → s.rotator.maxBackups ≠ 0 →
    Removes (s.rotator.renewed c.now s.files)
      (excess s.rotator.path s.rotator.maxBackups (s.rotator.renewed c.now s.files))

/-- No call to the file system fails while the writes are made. -/
def Unfailing (s : History) : List Call → Prop
  | [] => True
  | c :: calls => s.Succeeds c ∧ (s.step c).Unfailing calls

end History

variable {r : Rotator} {s : History} {c : Call} {calls : List Call} {fs fs' fs₀ : FileSystem}
  {dir : Location} {path name n : String} {names : List String}
  {number keep maxSize : Nat}

/-! ## Counting -/

theorem length_backupNames (fs : FileSystem) (dir : Location) (name : String) :
    (backupNames fs dir name).length = backupCount fs dir name :=
  (List.mergeSort_perm _ _).length_eq

/-- One name less is one less. -/
theorem backupCount_without (hs : fs.Sound) (hs' : fs'.Sound) (hn : isBackup name n = true)
    {x : Node} (hx : fs.node? (dir ++ [n]) = some x)
    (hnode : ∀ m, isBackup name m = true →
      fs'.node? (dir ++ [m]) = if m = n then none else fs.node? (dir ++ [m])) :
    backupCount fs dir name = backupCount fs' dir name + 1 := by
  have hgone : n ∉ (fs'.namesIn dir).filter (isBackup name) := by
    rw [List.mem_filter, hs'.mem_namesIn, hnode n hn, if_pos rfl]
    simp
  have hperm : ((fs.namesIn dir).filter (isBackup name)).Perm
      (n :: (fs'.namesIn dir).filter (isBackup name)) := by
    refine (List.perm_ext_iff_of_nodup ((hs.nodup_namesIn dir).filter _)
      (((hs'.nodup_namesIn dir).filter _).cons hgone)).mpr fun m => ?_
    rw [List.mem_cons, List.mem_filter, List.mem_filter, hs.mem_namesIn, hs'.mem_namesIn]
    by_cases hm : m = n
    · subst hm
      simp [hn, hx]
    · refine ⟨fun h => .inr ⟨?_, h.2⟩, fun h => ?_⟩
      · rw [hnode m h.2, if_neg hm]
        exact h.1
      · obtain ⟨hold, hbackup⟩ := h.resolve_left hm
        rw [hnode m hbackup, if_neg hm] at hold
        exact ⟨hold, hbackup⟩
  exact hperm.length_eq

/-- A file that is moved away is one more. -/
theorem Moved.count_succ {new : String} (h : Moved fs fs' dir name new number) (hs : fs.Sound)
    (hnew : isBackup name new = true) :
    backupCount fs' dir name = backupCount fs dir name + 1 := by
  have hthere : fs'.node? (dir ++ [new]) = some (.file number) := by
    rw [h.node_backup hnew, if_pos rfl]
  refine backupCount_without h.sound hs hnew hthere fun m hm => ?_
  rw [h.node_backup hm]
  split_ifs with heq
  · rw [heq, h.free]
  · rfl

/-! ## Removing -/

theorem excess_eq (h : fs.place path = .ok ⟨dir, .name name, false⟩) (keep : Nat) :
    excess path keep fs = ((backupNames fs dir name).take
      ((backupNames fs dir name).length - keep)).map (Path.join (directory path)) := by
  rw [excess, backups_names h, List.length_map, List.map_take]

/-- A file that has been removed is one less. -/
theorem Attached.count_removeFile (h : r.Attached fs dir name number)
    (hn : isBackup name n = true ∧ Plain n)
    (hok : (fs.removeFile (Path.join (directory r.path) n)).1 = .ok ()) :
    backupCount fs dir name =
      backupCount (fs.removeFile (Path.join (directory r.path) n)).2 dir name + 1 := by
  obtain ⟨dir', n', k, hplace, hk, hgone⟩ := removeFile_ok hok
  have hentry := place_entry h.place hn.1 hn.2
  split_ifs at hentry
  · simp [hentry] at hplace
  obtain ⟨rfl, rfl⟩ : dir = dir' ∧ n = n' := by simpa [hentry] using hplace
  refine backupCount_without h.sound (h.removeFile hn).1.sound hn.1 hk fun m _ => ?_
  rw [hgone, node?_unlink _ _ _ (by simp)]
  simp

theorem Attached.count_removeEntries (h : r.Attached fs dir name number)
    (hnames : ∀ n ∈ names, isBackup name n = true ∧ Plain n)
    (hok : Removes fs (names.map (Path.join (directory r.path)))) :
    backupCount (Rotator.removeEntries r.path names fs) dir name + names.length =
      backupCount fs dir name := by
  induction names generalizing fs with
  | nil => rfl
  | cons n names ih =>
    rw [List.forall_mem_cons] at hnames
    have hone := h.count_removeFile hnames.1 hok.1
    have hrest := ih (h.removeFile hnames.1).1 hnames.2 hok.2
    rw [removeEntries_cons, hone, List.length_cons]
    omega

/-- Pruning leaves as many as are to be kept. -/
theorem Attached.count_prune (h : r.Attached fs dir name number) (hnamed : fs.Named)
    (hok : Removes fs (excess r.path keep fs)) :
    backupCount (Rotator.prune r.path keep fs) dir name = min (backupCount fs dir name) keep := by
  rw [excess_eq h.place] at hok
  have hcount := h.count_removeEntries
    (fun n hn => plain_of_listed h.sound hnamed (List.mem_of_mem_take hn)) hok
  rw [← prune_eq h.place, List.length_take, length_backupNames] at hcount
  omega

theorem Removable.removeFile (h : Removable fs path dir n)
    (hplace : fs.place path = .ok ⟨dir, .name name, false⟩) (hn : isBackup name n = true)
    (hplain : Plain n) : ∃ k, fs.node? (dir ++ [n]) = some (.file k) ∧
      fs.removeFile (Path.join (directory path) n) = (.ok (), fs.unlink (dir ++ [n])) := by
  rcases removeFile_entry hplace hn hplain with ⟨-, ⟨k, hk⟩, -⟩ | ⟨hnot, -⟩
  · refine ⟨k, hk, removeFile_eq_unlink ?_ h.short hk⟩
    rw [place_entry hplace hn hplain, if_neg (Nat.not_lt.mpr h.size)]
  · exact absurd h hnot

/-- Files that can be removed are removed one after the other. -/
theorem Attached.removes (h : r.Attached fs dir name number) (hnodup : names.Nodup)
    (hnames : ∀ n ∈ names, (isBackup name n = true ∧ Plain n) ∧ Removable fs r.path dir n) :
    Removes fs (names.map (Path.join (directory r.path))) := by
  induction names generalizing fs with
  | nil => trivial
  | cons n names ih =>
    obtain ⟨hother, hnodup⟩ := List.nodup_cons.mp hnodup
    rw [List.forall_mem_cons] at hnames
    obtain ⟨⟨⟨hn, hplain⟩, hremovable⟩, hnames⟩ := hnames
    obtain ⟨k, hk, hremove⟩ := hremovable.removeFile h.place hn hplain
    rw [List.map_cons, Removes, hremove]
    refine ⟨rfl, ih (h.unlink (ne_of_isBackup hn) hk) hnodup fun m hm => ?_⟩
    obtain ⟨hm', hsize, hshort, hfile⟩ := hnames m hm
    have hne : m ≠ n := fun heq => hother (heq ▸ hm)
    refine ⟨hm', hsize, hshort, ?_⟩
    rwa [shown_unlink _ (by simp), if_neg (by simpa using hne)]

/-! ## A write that is due -/

/-- A write that is due moves the file to a name that fits and opens a new one; then only the
pruning is left to do. -/
theorem Attached.renews (h : s.rotator.Attached s.files dir name number) (hnamed : s.files.Named)
    (hdue : s.rotator.isDue c.bytes.length = true) (hpass : s.Passes c) :
    ∃ m, Fits s.rotator.path name (suffix c.now.stamp m) ∧
      Moved s.files (s.rotator.renewed c.now s.files) dir name (name ++ suffix c.now.stamp m)
        number ∧
      Attached { s.rotator with
        handle := some s.files.next, size := 0, rotations := s.rotator.rotations + 1 }
        (s.rotator.renewed c.now s.files) dir name s.files.next ∧
      (s.rotator.renewed c.now s.files).Named ∧
      (s.step c).rotator = { s.rotator with
        handle := some s.files.next, size := 0 + c.bytes.length,
        rotations := s.rotator.rotations + 1 } ∧
      (s.step c).files = (if s.rotator.maxBackups = 0 then s.rotator.renewed c.now s.files
        else Rotator.prune s.rotator.path s.rotator.maxBackups
          (s.rotator.renewed c.now s.files)).append s.files.next c.bytes := by
  obtain ⟨m, hpath, hunused, -, -, hmoved, hwrite⟩ := h.write_due hdue (hpass hdue)
  have hfits := (h.rename_iff hpath hunused).mp (hpass hdue)
  obtain ⟨hnew, hconfined⟩ := h.moves hmoved hnamed hfits
  have hstep : (s.step c).rotator = (s.rotator.write c.now c.bytes s.files).2.1 ∧
      (s.step c).files = (s.rotator.write c.now c.bytes s.files).2.2 := ⟨rfl, rfl⟩
  rw [hwrite] at hstep
  exact ⟨m, hfits, hmoved, hnew, hconfined.named hnamed, hstep⟩

/-- What holds between the writes to a file that was opened in the file system `fs`. -/
structure Limited (path : String) (dir : Location) (name : String) (keep : Nat) (fs : FileSystem)
    (s : History) : Prop where
  opened : s.rotator.path = path
  running : s.rotator.closed = false
  keeps : s.rotator.maxBackups = keep
  settled : Settled s.rotator s.files dir name
  confined : Confined dir name fs s.files
  few : 0 < s.rotator.rotations → backupCount s.files dir name ≤ keep

/-- **What a write makes of the number.** Without a rotation it stays, and the file that is open as
well; a rotation adds one and leaves no more than are to be kept. -/
theorem Limited.count_step (h : Limited path dir name keep fs s) (hkeep : 0 < keep)
    (hok : s.Succeeds c) :
    (s.step c).rotator = { s.rotator with size := s.rotator.size + c.bytes.length } ∧
        backupCount (s.step c).files dir name = backupCount s.files dir name ∨
      (s.step c).rotator = { s.rotator with
          handle := some s.files.next, size := 0 + c.bytes.length,
          rotations := s.rotator.rotations + 1 } ∧
        backupCount (s.step c).files dir name = min (backupCount s.files dir name + 1) keep := by
  obtain ⟨number, hr⟩ := h.settled.attached h.running
  cases hdue : s.rotator.isDue c.bytes.length with
  | false =>
    rw [History.step_small hr hdue]
    exact .inl ⟨rfl, rfl⟩
  | true =>
    have hkeep' : s.rotator.maxBackups ≠ 0 := by
      rw [h.keeps]
      exact Nat.ne_of_gt hkeep
    obtain ⟨m, hfits, hmoved, hnew, hnamed, hrotator, hfiles⟩ :=
      hr.renews h.settled.named hdue hok.passes
    have hcount := hnew.count_prune hnamed (hok.removes hdue hkeep')
    rw [hmoved.count_succ hr.sound hfits.backup] at hcount
    refine .inr ⟨hrotator, ?_⟩
    rw [hfiles, if_neg hkeep', ← h.keeps]
    exact hcount

/-! ## A run -/

theorem Limited.step (h : Limited path dir name keep fs s) (hkeep : 0 < keep)
    (hok : s.Succeeds c) : Limited path dir name keep fs (s.step c) := by
  obtain ⟨hsettled, hconfined⟩ := h.settled.write c.now c.bytes
  have hconfined := h.confined.trans hconfined
  rcases h.count_step hkeep hok with ⟨hr, hcount⟩ | ⟨hr, hcount⟩
  · refine ⟨by rw [hr, ← h.opened], by rw [hr, ← h.running], by rw [hr, ← h.keeps], hsettled,
      hconfined, fun hrotated => ?_⟩
    rw [hr] at hrotated
    rw [hcount]
    exact h.few hrotated
  · refine ⟨by rw [hr, ← h.opened], by rw [hr, ← h.running], by rw [hr, ← h.keeps], hsettled,
      hconfined, fun _ => ?_⟩
    rw [hcount]
    exact Nat.min_le_right _ _

theorem Limited.writes (h : Limited path dir name keep fs s) (hkeep : 0 < keep)
    (hcalls : s.Unfailing calls) : Limited path dir name keep fs (s.writes calls) := by
  induction calls generalizing s with
  | nil => exact h
  | cons c calls ih => exact ih (h.step hkeep hcalls.1) hcalls.2

end LogPipeline.Rotator
