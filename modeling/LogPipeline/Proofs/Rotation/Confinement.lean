import LogPipeline.Proofs.File.Changes
import LogPipeline.Proofs.Handler.Effects
import LogPipeline.Proofs.Rotation.Family
import LogPipeline.Proofs.Rotation.Pruning

/-!
# What a rotating file touches

All that a write says and does, whether or not the file can be moved, is `Attached.write_cases`. It
touches nothing but the family of the file (`Confined`), so a file of another family beside it stays
as it was, and the file itself is left ready for the next write (`Settled.write`).
-/

namespace LogPipeline.Rotator

open FileSystem

/-- Nothing outside the family of a name has changed, and every directory is still there. -/
structure Confined (dir : Location) (name : String) (fs fs' : FileSystem) : Prop where
  sound : fs'.Sound
  named : fs.Named → fs'.Named
  dirs : ∀ l, fs.node? l = some .dir → fs'.node? l = some .dir
  outside : ∀ l, (∀ n, InFamily name n → l ≠ dir ++ [n]) →
    fs'.node? l = fs.node? l ∧ ∀ k, fs.node? l = some (.file k) → fs'.content k = fs.content k

/-- A rotating file between two calls: closed, or attached to the file at its path. -/
structure Settled (r : Rotator) (fs : FileSystem) (dir : Location) (name : String) : Prop where
  sound : fs.Sound
  named : fs.Named
  place : fs.place r.path = .ok ⟨dir, .name name, false⟩
  attached : r.closed = false → ∃ number, r.Attached fs dir name number

variable {r : Rotator} {fs fs' fs'' : FileSystem} {dir : Location} {name new n a b : String}
  {number : Nat} {t : Timestamp} {bytes : Bytes} {names : List String}

/-! ## Changes within a family -/

theorem Confined.refl (hs : fs.Sound) : Confined dir name fs fs :=
  ⟨hs, id, fun _ h => h, fun _ _ => ⟨rfl, fun _ _ => rfl⟩⟩

theorem Confined.trans (h : Confined dir name fs fs') (h' : Confined dir name fs' fs'') :
    Confined dir name fs fs'' where
  sound := h'.sound
  named hn := h'.named (h.named hn)
  dirs l hl := h'.dirs l (h.dirs l hl)
  outside l hl := by
    obtain ⟨hnode, hcontent⟩ := h.outside l hl
    obtain ⟨hnode', hcontent'⟩ := h'.outside l hl
    exact ⟨hnode'.trans hnode, fun k hk => (hcontent' k (hnode.trans hk)).trans (hcontent k hk)⟩

theorem Attached.confined_append (h : r.Attached fs dir name number) (bytes : Bytes) :
    Confined dir name fs (fs.append number bytes) where
  sound := h.sound.append _ _
  named hn := hn
  dirs _ hl := hl
  outside l hl := by
    refine ⟨rfl, fun k hk => ?_⟩
    rw [content_append, if_neg]
    rintro rfl
    exact hl name (.self name) (h.sound.unshared l _ _ hk h.node)

theorem Moved.confined (hm : Moved fs fs' dir name new number) (hs : fs.Sound)
    (hn : fs.node? (dir ++ [name]) = some (.file number)) (hnew : InFamily name new)
    (hplain : Plain new) : Confined dir name fs fs' where
  sound := hm.sound
  named hnamed := by
    refine hnamed.of_old fun d m x hx => ?_
    rw [hm.node] at hx
    split_ifs at hx with heq heq'
    · obtain rfl : m = new := by simpa using (List.append_inj' heq rfl).2
      exact .inl hplain
    · exact .inr ⟨_, by rw [heq', hn]⟩
    · exact .inr ⟨x, hx⟩
  dirs l hl := by
    refine hm.kept ?_ hl
    rintro rfl
    rw [hn] at hl
    cases hl
  outside l hl := by
    refine ⟨by rw [hm.node, if_neg (hl new hnew), if_neg (hl name (.self name))], fun k hk => ?_⟩
    rw [hm.content, if_neg (Nat.ne_of_lt (hs.numbered l k hk))]

theorem confined_unlink (hs : fs.Sound) (hn : fs.node? (dir ++ [n]) = some (.file number))
    (hfamily : InFamily name n) : Confined dir name fs (fs.unlink (dir ++ [n])) where
  sound := hs.unlink_file hn
  named hnamed := hnamed.unlink _
  dirs l hl := by
    by_cases hnil : l = []
    · subst hnil
      rfl
    · rw [node?_unlink _ _ _ hnil, if_neg, hl]
      rintro rfl
      rw [hn] at hl
      cases hl
  outside l hl := by
    refine ⟨?_, fun _ _ => rfl⟩
    by_cases hnil : l = []
    · subst hnil
      rfl
    · rw [node?_unlink _ _ _ hnil, if_neg (hl n hfamily)]

/-- Removing a file moved away, or failing to, leaves the file itself attached. -/
theorem Attached.removeFile (h : r.Attached fs dir name number)
    (hn : isBackup name n = true ∧ Plain n) :
    r.Attached (fs.removeFile (Path.join (directory r.path) n)).2 dir name number ∧
      Confined dir name fs (fs.removeFile (Path.join (directory r.path) n)).2 := by
  rcases removeFile_entry h.place hn.1 hn.2 with ⟨-, ⟨k, hk⟩, hgone⟩ | ⟨-, hsame⟩
  · rw [hgone]
    exact ⟨h.unlink (ne_of_isBackup hn.1) hk, confined_unlink h.sound hk (.inr hn.1)⟩
  · rw [hsame]
    exact ⟨h, .refl h.sound⟩

theorem Attached.removeEntries (h : r.Attached fs dir name number)
    (hnames : ∀ n ∈ names, isBackup name n = true ∧ Plain n) :
    r.Attached (removeEntries r.path names fs) dir name number ∧
      Confined dir name fs (removeEntries r.path names fs) := by
  induction names generalizing fs with
  | nil => exact ⟨h, .refl h.sound⟩
  | cons n names ih =>
    rw [List.forall_mem_cons] at hnames
    obtain ⟨hone, hconfined⟩ := h.removeFile hnames.1
    obtain ⟨hrest, hconfined'⟩ := ih hone hnames.2
    rw [removeEntries_cons]
    exact ⟨hrest, hconfined.trans hconfined'⟩

theorem Attached.prune (h : r.Attached fs dir name number) (hnamed : fs.Named) (keep : Nat) :
    r.Attached (prune r.path keep fs) dir name number ∧
      Confined dir name fs (Rotator.prune r.path keep fs) := by
  rw [prune_eq h.place]
  exact h.removeEntries fun n hn =>
    plain_of_listed h.sound hnamed (List.mem_of_mem_take hn)

/-! ## Another family -/

theorem Confined.sameFamily (h : Confined dir a fs fs') (hapart : Apart a b) :
    SameFamily dir b fs fs' := by
  intro n hn
  obtain ⟨hnode, hcontent⟩ := h.outside _ (hapart.location_ne hn dir)
  exact shown_congr hnode hcontent

/-- A rotating file is still ready where its own file has been left alone. -/
theorem Settled.kept (h : Settled r fs dir name) (hs : fs'.Sound) (hnamed : fs'.Named)
    (hdirs : ∀ l, fs.node? l = some .dir → fs'.node? l = some .dir)
    (hfile : ∀ k, fs.node? (dir ++ [name]) = some (.file k) →
      fs'.node? (dir ++ [name]) = some (.file k) ∧ fs'.content k = fs.content k) :
    Settled r fs' dir name where
  sound := hs
  named := hnamed
  place := place_mono hdirs h.place
  attached hrunning := by
    obtain ⟨number, hr⟩ := h.attached hrunning
    obtain ⟨hnode, hcontent⟩ := hfile number hr.node
    refine ⟨number, hs, place_mono hdirs h.place, hr.short, hr.running, hr.handle, hnode, ?_⟩
    rw [hcontent]
    exact hr.size

theorem Settled.confined (h : Settled r fs dir b) (hc : Confined dir a fs fs')
    (hapart : Apart a b) : Settled r fs' dir b := by
  obtain ⟨hnode, hcontent⟩ := hc.outside _ (hapart.location_ne (.self b) dir)
  exact h.kept hc.sound (hc.named h.named) hc.dirs fun k hk => ⟨hnode.trans hk, hcontent k hk⟩

/-! ## One write -/

/-- The file can be moved to a free name beside it exactly if the name and its path are short
enough. -/
theorem Attached.rename_iff (h : r.Attached fs dir name number) {m : Nat}
    (hpath : backupPath r.path t fs = r.path ++ suffix t.stamp m)
    (hunused : fs.has (r.path ++ suffix t.stamp m) = false) :
    (fs.rename r.path (backupPath r.path t fs)).1 = .ok () ↔
      Fits r.path name (suffix t.stamp m) := by
  have hslash := not_mem_suffix t m (.inl rfl)
  have hnul := not_mem_suffix t m (.inr rfl)
  rw [hpath]
  constructor
  · intro hok
    obtain ⟨hplace, hshort⟩ := place_of_rename h.place hslash hnul h.node hok
    exact ⟨isBackup_suffix _ _ _, hslash, hnul, size_le_of_place hplace, hshort⟩
  · intro hfits
    have hplace := place_append h.place hslash hnul hfits.size
    rw [rename_eq_relocate h.place hplace h.short hfits.short h.node
      (free_of_not_has hplace hfits.short hunused)]

/-- A write that is due while the file cannot be moved goes on in the same file. -/
theorem Attached.write_blocked (h : r.Attached fs dir name number)
    (hdue : r.isDue bytes.length = true)
    (hfail : (fs.rename r.path (backupPath r.path t fs)).1 ≠ .ok ()) :
    r.write t bytes fs = (.ok bytes.length,
      { r with size := r.size + bytes.length, failures := r.failures + 1 },
      fs.append number bytes) := by
  obtain ⟨e, hrename⟩ : ∃ e, fs.rename r.path (backupPath r.path t fs) = (.error e, fs) := by
    cases hrename : fs.rename r.path (backupPath r.path t fs) with
    | mk result fs' =>
    cases result with
    | error e =>
      rw [rename_error h.sound hrename]
      exact ⟨e, rfl⟩
    | ok _ => exact absurd (congrArg Prod.fst hrename) hfail
  have hopen := openAppend_file h.place h.short h.node
  have hreopened : ({ r with handle := some number, size := (fs.content number).length } :
      Rotator) = r := by rw [← h.size, ← h.handle]
  have hrotate : r.rotate t fs = (.error e, r, fs) := by
    unfold rotate reopen
    simp only [hrename, hopen, hreopened]
  have hcount : r.rotateCounted t fs = ({ r with failures := r.failures + 1 }, fs) := by
    unfold rotateCounted
    simp only [hrotate]
  exact write_of_rotateCounted h.handle h.running hdue hcount h.handle

/-- **All that a write does.** It looks for the first free name beside the file. Where the write is
due and the name fits, the file is moved there, files moved away earlier may go, and the octets are
put into a new file. Otherwise they are put behind the file, and if the write was due, the failure
is counted. -/
theorem Attached.write_cases (h : r.Attached fs dir name number) (t : Timestamp) (bytes : Bytes) :
    ∃ m, fs.has (r.path ++ suffix t.stamp m) = false ∧
      (∀ i < m, fs.has (r.path ++ suffix t.stamp i) = true) ∧
      (¬(r.isDue bytes.length = true ∧ Fits r.path name (suffix t.stamp m)) ∧
          r.write t bytes fs = (.ok bytes.length,
            { r with
              size := r.size + bytes.length
              failures := if r.isDue bytes.length then r.failures + 1 else r.failures },
            fs.append number bytes) ∨
        (r.isDue bytes.length = true ∧ Fits r.path name (suffix t.stamp m)) ∧
          ∃ fs', Moved fs fs' dir name (name ++ suffix t.stamp m) number ∧
            r.write t bytes fs = (.ok bytes.length,
              { r with
                handle := some fs.next, size := 0 + bytes.length, rotations := r.rotations + 1 },
              (if r.maxBackups = 0 then fs' else Rotator.prune r.path r.maxBackups fs').append
                fs.next bytes)) := by
  obtain ⟨m, hpath, hunused, hused⟩ := exists_backupPath (t := t) h.place
  have hfits := h.rename_iff hpath hunused
  refine ⟨m, hunused, hused, ?_⟩
  cases hdue : r.isDue bytes.length with
  | false => exact .inl ⟨fun hboth => (nomatch hboth.1), h.write_small hdue⟩
  | true =>
    by_cases hok : (fs.rename r.path (backupPath r.path t fs)).1 = .ok ()
    · obtain ⟨m', hpath', -, -, -, hmoved, hwrite⟩ := h.write_due hdue hok
      obtain rfl : m = m' := suffix_injective
        ((String.append_right_inj r.path).mp (hpath.symm.trans hpath'))
      exact .inr ⟨⟨rfl, hfits.mp hok⟩, _, hmoved, hwrite⟩
    · exact .inl ⟨fun hboth => hok (hfits.mpr hboth.2), h.write_blocked hdue hok⟩

/-- No write closes the file. -/
theorem Attached.running_write (h : r.Attached fs dir name number) (t : Timestamp)
    (bytes : Bytes) : (r.write t bytes fs).2.1.closed = false := by
  obtain ⟨m, -, -, ⟨-, hwrite⟩ | ⟨-, fs', -, hwrite⟩⟩ := h.write_cases t bytes
  · rw [hwrite]
    exact h.running
  · rw [hwrite]
    exact h.running

/-- After a move the new file is attached. -/
theorem Attached.moves (h : r.Attached fs dir name number) {m : Nat}
    (hm : Moved fs fs' dir name (name ++ suffix t.stamp m) number) (hnamed : fs.Named)
    (hfits : Fits r.path name (suffix t.stamp m)) :
    Attached { r with handle := some fs.next, size := 0, rotations := r.rotations + 1 }
        fs' dir name fs.next ∧ Confined dir name fs fs' := by
  have hplain : Plain (name ++ suffix t.stamp m) := by
    obtain ⟨hslash, hnul⟩ := hnamed dir name _ h.node
    constructor <;> rw [String.toList_append, List.mem_append, not_or]
    · exact ⟨hslash, hfits.slash⟩
    · exact ⟨hnul, hfits.nul⟩
  exact ⟨h.of_moved hm rfl h.running rfl rfl,
    hm.confined h.sound h.node (.suffix _ _ _) hplain⟩

/-- It stays so while files moved away are removed. -/
theorem Attached.moves_prune (h : r.Attached fs dir name number) {m : Nat}
    (hm : Moved fs fs' dir name (name ++ suffix t.stamp m) number) (hnamed : fs.Named)
    (hfits : Fits r.path name (suffix t.stamp m)) :
    Attached { r with handle := some fs.next, size := 0, rotations := r.rotations + 1 }
        (if r.maxBackups = 0 then fs' else Rotator.prune r.path r.maxBackups fs') dir name fs.next ∧
      Confined dir name fs
        (if r.maxBackups = 0 then fs' else Rotator.prune r.path r.maxBackups fs') := by
  obtain ⟨hnew, hconfined⟩ := h.moves hm hnamed hfits
  split_ifs
  · exact ⟨hnew, hconfined⟩
  · obtain ⟨hpruned, hconfined'⟩ := hnew.prune (hconfined.named hnamed) r.maxBackups
    exact ⟨hpruned, hconfined.trans hconfined'⟩

/-- An attached file is one whatever the counts are. -/
theorem Attached.recount (h : r.Attached fs dir name number) (rotations failures : Nat) :
    Attached { r with rotations, failures } fs dir name number :=
  ⟨h.sound, h.place, h.short, h.running, h.handle, h.node, h.size⟩

/-- An attached file is ready for the next write once octets are put behind it. -/
theorem Attached.settled_append (h : r.Attached fs dir name number) (hnamed : fs.Named)
    (bytes : Bytes) :
    Settled { r with size := r.size + bytes.length } (fs.append number bytes) dir name :=
  ⟨(h.confined_append bytes).sound, hnamed, h.append.place, fun _ => ⟨number, h.append⟩⟩

/-- A write keeps to the family of its file, and leaves the file ready for the next one. -/
theorem Settled.write (h : Settled r fs dir name) (t : Timestamp) (bytes : Bytes) :
    Settled (r.write t bytes fs).2.1 (r.write t bytes fs).2.2 dir name ∧
      Confined dir name fs (r.write t bytes fs).2.2 := by
  cases hclosed : r.closed with
  | true =>
    rw [r.write_of_closed t bytes fs hclosed]
    exact ⟨h, .refl h.sound⟩
  | false =>
    obtain ⟨number, hr⟩ := h.attached hclosed
    obtain ⟨m, -, -, ⟨-, hwrite⟩ | ⟨⟨-, hfits⟩, fs', hmoved, hwrite⟩⟩ := hr.write_cases t bytes
    · have hcounted := hr.recount r.rotations
        (if r.isDue bytes.length then r.failures + 1 else r.failures)
      rw [hwrite]
      exact ⟨hcounted.settled_append h.named bytes, hcounted.confined_append bytes⟩
    · obtain ⟨hnew, hconfined⟩ := hr.moves_prune hmoved h.named hfits
      rw [hwrite]
      exact ⟨hnew.settled_append (hconfined.named h.named) bytes,
        hconfined.trans (hnew.confined_append bytes)⟩

theorem Settled.close (h : Settled r fs dir name) : Settled r.close fs dir name :=
  ⟨h.sound, h.named, h.place, fun hrunning => nomatch hrunning⟩

end LogPipeline.Rotator
