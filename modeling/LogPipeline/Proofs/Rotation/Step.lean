import LogPipeline.Proofs.File.Operations
import LogPipeline.Proofs.Rotation.FreeName

/-!
# One write to a rotating file

A rotating file is `Attached` if its path leads to the very file it has open, and its size is that
of the file. A write that is not due only appends (`Attached.write_small`); one that is due moves
the file to a free name beside it and goes into a new one (`Attached.write_due`). Both leave it
attached.
-/

namespace LogPipeline.Rotator

open FileSystem

/-- The file stands at its path, under the name that it is open by, and its size is known. -/
structure Attached (r : Rotator) (fs : FileSystem) (dir : Location) (name : String)
    (number : Nat) : Prop where
  sound : fs.Sound
  place : fs.place r.path = .ok ⟨dir, .name name, false⟩
  short : name.utf8ByteSize ≤ nameLimit
  running : r.closed = false
  handle : r.handle = some number
  node : fs.node? (dir ++ [name]) = some (.file number)
  size : r.size = (fs.content number).length

/-- What moving the file to a free name and opening a new one changes. -/
structure Moved (fs fs' : FileSystem) (dir : Location) (name new : String) (number : Nat) :
    Prop where
  sound : fs'.Sound
  short : new.utf8ByteSize ≤ nameLimit
  free : fs.node? (dir ++ [new]) = none
  node : ∀ l, fs'.node? l = if l = dir ++ [new] then some (.file number)
    else if l = dir ++ [name] then some (.file fs.next) else fs.node? l
  content : ∀ n, fs'.content n = if n = fs.next then [] else fs.content n

variable {r : Rotator} {fs fs' : FileSystem} {dir : Location} {name new : String} {number : Nat}
  {t : Timestamp} {bytes : Bytes}

/-! ## Moving the file -/

/-- No directory is touched when a file is renamed. -/
theorem node?_relocate_dir (hs : fs.Sound) (hn : fs.node? (dir ++ [name]) = some (.file number))
    (hfree : fs.node? (dir ++ [new]) = none) {l : Location} (hl : fs.node? l = some .dir) :
    (fs.relocate (dir ++ [name]) (dir ++ [new])).node? l = some .dir := by
  rw [hs.node?_relocate (by simp) hn hfree, if_neg, if_neg, hl]
  · rintro rfl
    rw [hn] at hl
    simp at hl
  · rintro rfl
    rw [hfree] at hl
    simp at hl

theorem Moved.of_free (hs : fs.Sound) (hn : fs.node? (dir ++ [name]) = some (.file number))
    (hfree : fs.node? (dir ++ [new]) = none) (hshort : new.utf8ByteSize ≤ nameLimit) :
    Moved fs ((fs.relocate (dir ++ [name]) (dir ++ [new])).newFile (dir ++ [name])) dir name new
      number := by
  have hne : dir ++ [name] ≠ dir ++ [new] := by
    intro heq
    rw [heq, hfree] at hn
    simp at hn
  have hdir : fs.node? dir = some .dir := hs.node?_dir hn
  have hnode := hs.node?_relocate (by simp) hn hfree
  have hsound := hs.relocate (by simp) hn hfree (by rwa [List.dropLast_concat])
  have hgone : (fs.relocate (dir ++ [name]) (dir ++ [new])).node? (dir ++ [name]) = none := by
    rw [hnode, if_neg hne, if_pos rfl]
  refine ⟨hsound.newFile (by simp) hgone ?_, hshort, hfree, fun l => ?_, fun n => ?_⟩
  · rw [List.dropLast_concat]
    exact node?_relocate_dir hs hn hfree hdir
  · rw [node?_newFile, hnode]
    split_ifs
    · rfl
    · rfl
    · rw [next_relocate, Option.none_or]
    · exact Option.or_none
  · rw [content_newFile, next_relocate, content_relocate]
    simp only [eq_comm]

/-- What has a name and is not the file itself is left as it is. -/
theorem Moved.kept (h : Moved fs fs' dir name new number) {l : Location} {x : Node}
    (hl : l ≠ dir ++ [name]) (hx : fs.node? l = some x) : fs'.node? l = some x := by
  rw [h.node, if_neg, if_neg hl, hx]
  rintro rfl
  rw [h.free] at hx
  simp at hx

/-- The file system once the file has been moved away and a new one opened. -/
def renewed (r : Rotator) (t : Timestamp) (fs : FileSystem) : FileSystem :=
  ((fs.rename r.path (backupPath r.path t fs)).2.openAppend r.path).2

/-- The rotation of an attached file that can be renamed. -/
theorem Attached.rotate_eq (h : r.Attached fs dir name number)
    (hok : (fs.rename r.path (backupPath r.path t fs)).1 = .ok ()) :
    ∃ m, backupPath r.path t fs = r.path ++ suffix t.stamp m ∧
      fs.has (r.path ++ suffix t.stamp m) = false ∧
      (∀ i < m, fs.has (r.path ++ suffix t.stamp i) = true) ∧
      fs.place (r.path ++ suffix t.stamp m) = .ok ⟨dir, .name (name ++ suffix t.stamp m), false⟩ ∧
      Moved fs (r.renewed t fs) dir name (name ++ suffix t.stamp m) number ∧
      r.rotate t fs = (.ok (), { r with handle := some fs.next, size := 0 },
        if r.maxBackups = 0 then r.renewed t fs
          else prune r.path r.maxBackups (r.renewed t fs)) := by
  obtain ⟨m, hpath, hunused, hused⟩ := exists_backupPath (t := t) h.place
  rw [hpath] at hok
  obtain ⟨hplace, hshort⟩ := place_of_rename h.place (not_mem_suffix t m (.inl rfl))
    (not_mem_suffix t m (.inr rfl)) h.node hok
  have hfree := free_of_not_has hplace hshort hunused
  have hrename := rename_eq_relocate h.place hplace h.short hshort h.node hfree
  have hopen := openAppend_new
    (place_mono (fun l hl => node?_relocate_dir h.sound h.node hfree hl) h.place) h.short
    (by rw [h.sound.node?_relocate (by simp) h.node hfree, if_neg (by
      intro heq
      rw [← heq, h.node] at hfree
      simp at hfree), if_pos rfl])
  have hrenewed : r.renewed t fs =
      (fs.relocate (dir ++ [name]) (dir ++ [name ++ suffix t.stamp m])).newFile (dir ++ [name]) := by
    rw [renewed, hpath, hrename, hopen]
  refine ⟨m, hpath, hunused, hused, hplace, ?_, ?_⟩
  · rw [hrenewed]
    exact .of_free h.sound h.node hfree hshort
  · rw [hrenewed]
    unfold rotate
    simp only [hpath, hrename, hopen]
    rfl

/-! ## Writing -/

theorem ensureOpen_eq {n : Nat} (h : r.handle = some n) : r.ensureOpen fs = (.ok (), r, fs) := by
  rw [ensureOpen, if_pos (by rw [h]; rfl)]

/-- A write that is not due only appends. -/
theorem Attached.write_small (h : r.Attached fs dir name number)
    (hdue : r.isDue bytes.length = false) :
    r.write t bytes fs =
      (.ok bytes.length, { r with size := r.size + bytes.length }, fs.append number bytes) := by
  unfold write
  simp only [h.running, ensureOpen_eq h.handle, hdue, put, h.handle, Bool.false_eq_true, if_false]

theorem Attached.append (h : r.Attached fs dir name number) :
    ({ r with size := r.size + bytes.length }).Attached (fs.append number bytes) dir name number where
  sound := h.sound.append _ _
  place := place_mono (fun l hl => (node?_append fs number bytes l).trans hl) h.place
  short := h.short
  running := h.running
  handle := h.handle
  node := h.node
  size := by
    rw [content_append, if_pos rfl, List.length_append, ← h.size]

/-- After a move any rotating file that has the new file open is attached. -/
theorem Attached.of_moved (h : r.Attached fs dir name number)
    (hm : Moved fs fs' dir name new number) {r' : Rotator} (hpath : r'.path = r.path)
    (hrunning : r'.closed = false) (hhandle : r'.handle = some fs.next) (hsize : r'.size = 0) :
    r'.Attached fs' dir name fs.next where
  sound := hm.sound
  place := by
    rw [hpath]
    refine place_mono (fun l hl => hm.kept ?_ hl) h.place
    rintro rfl
    rw [h.node] at hl
    simp at hl
  short := h.short
  running := hrunning
  handle := hhandle
  node := by
    have hne : dir ++ [name] ≠ dir ++ [new] := by
      intro heq
      have := h.node
      rw [heq, hm.free] at this
      simp at this
    rw [hm.node, if_neg hne, if_pos rfl]
  size := by
    rw [hsize, hm.content, if_pos rfl]
    rfl

/-- A write that is due, by what has become of the file after the rotation was tried. -/
theorem write_of_rotateCounted {r' : Rotator} {m n : Nat} (hopen : r.handle = some m)
    (hrunning : r.closed = false) (hdue : r.isDue bytes.length = true)
    (hcount : r.rotateCounted t fs = (r', fs')) (hhandle : r'.handle = some n) :
    r.write t bytes fs =
      (.ok bytes.length, { r' with size := r'.size + bytes.length }, fs'.append n bytes) := by
  unfold write
  simp only [hrunning, ensureOpen_eq hopen, hdue, hcount, ensureOpen_eq hhandle,
    Bool.false_eq_true, if_false, if_true]
  simp only [put, hhandle]

theorem write_of_rotate {r' : Rotator} {m n : Nat} (hopen : r.handle = some m)
    (hrunning : r.closed = false) (hdue : r.isDue bytes.length = true)
    (hrotate : r.rotate t fs = (.ok (), r', fs')) (hhandle : r'.handle = some n) :
    r.write t bytes fs = (.ok bytes.length,
      { r' with size := r'.size + bytes.length, rotations := r'.rotations + 1 },
      fs'.append n bytes) := by
  have hcount : r.rotateCounted t fs = ({ r' with rotations := r'.rotations + 1 }, fs') := by
    unfold rotateCounted
    simp only [hrotate]
  exact write_of_rotateCounted hopen hrunning hdue hcount hhandle

/-- A write that is due goes into a new file, after the old one has been moved. -/
theorem Attached.write_due (h : r.Attached fs dir name number)
    (hdue : r.isDue bytes.length = true)
    (hok : (fs.rename r.path (backupPath r.path t fs)).1 = .ok ()) :
    ∃ m, backupPath r.path t fs = r.path ++ suffix t.stamp m ∧
      fs.has (r.path ++ suffix t.stamp m) = false ∧
      (∀ i < m, fs.has (r.path ++ suffix t.stamp i) = true) ∧
      fs.place (r.path ++ suffix t.stamp m) = .ok ⟨dir, .name (name ++ suffix t.stamp m), false⟩ ∧
      Moved fs (r.renewed t fs) dir name (name ++ suffix t.stamp m) number ∧
      r.write t bytes fs = (.ok bytes.length,
        { r with handle := some fs.next, size := 0 + bytes.length, rotations := r.rotations + 1 },
        (if r.maxBackups = 0 then r.renewed t fs
          else prune r.path r.maxBackups (r.renewed t fs)).append fs.next bytes) := by
  obtain ⟨m, hpath, hunused, hused, hplace, hmoved, hrotate⟩ := h.rotate_eq hok
  exact ⟨m, hpath, hunused, hused, hplace, hmoved,
    write_of_rotate h.handle h.running hdue hrotate rfl⟩

/-! ## What is left alone -/

/-- All names but one lead where they did, and the files that they lead to hold what they did. -/
def Preserves (fs fs' : FileSystem) (except : Location) : Prop :=
  ∀ l x, l ≠ except → fs.node? l = some x →
    fs'.node? l = some x ∧ ∀ n, x = .file n → fs'.content n = fs.content n

theorem Preserves.refl (fs : FileSystem) (l : Location) : Preserves fs fs l :=
  fun _ _ _ h => ⟨h, fun _ _ => rfl⟩

theorem Preserves.trans {fs₁ fs₂ fs₃ : FileSystem} {l : Location} (h : Preserves fs₁ fs₂ l)
    (h' : Preserves fs₂ fs₃ l) : Preserves fs₁ fs₃ l := by
  intro m x hm hx
  obtain ⟨hx₂, hc⟩ := h m x hm hx
  obtain ⟨hx₃, hc'⟩ := h' m x hm hx₂
  exact ⟨hx₃, fun n hn => (hc' n hn).trans (hc n hn)⟩

/-- Appending changes the file alone. -/
theorem Preserves.append (hs : fs.Sound) {l : Location} (hn : fs.node? l = some (.file number))
    (bytes : Bytes) : Preserves fs (fs.append number bytes) l := by
  intro m x hm hx
  refine ⟨hx, ?_⟩
  rintro n rfl
  rw [content_append, if_neg]
  rintro rfl
  exact hm (hs.unshared m l _ hx hn)

/-- A new file changes nothing that was there. -/
theorem Preserves.newFile (hs : fs.Sound) (l : Location) :
    Preserves fs (fs.newFile l) l := by
  intro m x _ hx
  refine ⟨by rw [node?_newFile, hx]; rfl, ?_⟩
  rintro n rfl
  rw [content_newFile, if_neg]
  exact Nat.ne_of_gt (hs.numbered m n hx)

theorem Moved.preserves (h : Moved fs fs' dir name new number) (hs : fs.Sound) :
    Preserves fs fs' (dir ++ [name]) := by
  intro l x hl hx
  refine ⟨h.kept hl hx, ?_⟩
  rintro n rfl
  rw [h.content, if_neg]
  exact Nat.ne_of_lt (hs.numbered l n hx)

end LogPipeline.Rotator
