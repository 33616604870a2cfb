import LogPipeline.Proofs.File.Changes
import LogPipeline.Proofs.Handler.Effects
import LogPipeline.Proofs.Rotation.History

/-!
# Mishaps

Between the writes to a rotating file others may do what they like with the file system: remove the
file, those moved away or the directory of all of them, rename them, put directories in their place.
None of it stops the file for good (`only_closing_is_final`). A write succeeds as soon as the path
could be opened, its octets go to one file or to none, and what it tries to rotate is counted once.

All that a write does before it puts its octets anywhere is `Prepared`: names change, and files lose
theirs only where a rotation succeeds. The file that is open stays below the number of the next one
(`Usable`), so that no file made later is taken for it.
-/

namespace LogPipeline.Rotator

open FileSystem

/-- A rotating file at any time after it was opened. -/
structure Usable (r : Rotator) (fs : FileSystem) : Prop where
  sound : fs.Sound
  handle : ∀ n, r.handle = some n → n < fs.next
  named : r.path.toList.getLast? ≠ some '/'

/-- What is done before octets are put anywhere, with how many rotations in it that succeed and that
fail. -/
structure Prepared (succeeded failed : Nat) (r : Rotator) (fs : FileSystem) (r' : Rotator)
    (fs' : FileSystem) : Prop where
  rest : r' = { r with
    handle := r'.handle, size := r'.size,
    rotations := r.rotations + succeeded, failures := r.failures + failed }
  files : Rearranged fs fs'
  linked : succeeded = 0 → ∀ n, fs.Linked n → fs'.Linked n
  handle : ∀ n, r'.handle = some n → n < fs'.next

variable {r r' r'' : Rotator} {fs fs' fs'' : FileSystem} {t : Timestamp} {bytes : Bytes}
  {length a b c d : Nat}

theorem Prepared.refl (h : Usable r fs) : Prepared 0 0 r fs r fs :=
  ⟨rfl, .refl h.sound, fun _ _ hn => hn, h.handle⟩

theorem Prepared.trans (h : Prepared a b r fs r' fs') (h' : Prepared c d r' fs' r'' fs'') :
    Prepared (a + c) (b + d) r fs r'' fs'' where
  rest := by
    have hrest := h'.rest
    rw [h.rest] at hrest
    simpa [Nat.add_assoc] using hrest
  files := h.files.trans h'.files
  linked hnone n hn := h'.linked (by omega) n (h.linked (by omega) n hn)
  handle := h'.handle

theorem Prepared.path (h : Prepared a b r fs r' fs') : r'.path = r.path := by
  rw [h.rest]

theorem Prepared.closed (h : Prepared a b r fs r' fs') : r'.closed = r.closed := by
  rw [h.rest]

theorem Prepared.usable (h : Prepared a b r fs r' fs') (hu : Usable r fs) : Usable r' fs' :=
  ⟨h.files.sound, h.handle, by rw [h.path]; exact hu.named⟩

/-! ## Opening again -/

/-- Opening again does nothing, or it puts another file in the place of the open one. -/
theorem reopen_cases (r : Rotator) (fs : FileSystem) :
    ¬fs.Opens r.path ∧ (∃ e, r.reopen fs = (.error e, r, fs)) ∨
    ∃ n fs', fs.openAppend r.path = (.ok n, fs') ∧
      r.reopen fs = (.ok (), { r with handle := some n, size := (fs'.content n).length }, fs') := by
  unfold reopen
  split
  · rename_i e fs' he
    obtain rfl := openAppend_error he
    refine .inl ⟨?_, e, rfl⟩
    rintro ⟨n, hn⟩
    rw [he] at hn
    cases hn
  · rename_i n fs' hn
    exact .inr ⟨n, fs', hn, rfl⟩

theorem prepared_reopen (h : Usable r fs) :
    Prepared 0 0 r fs (r.reopen fs).2.1 (r.reopen fs).2.2 := by
  rcases reopen_cases r fs with ⟨-, e, he⟩ | ⟨n, fs', hn, hreopen⟩
  · rw [he]
    exact .refl h
  · obtain ⟨hfiles, hkept, hnext⟩ := rearranged_openAppend h.sound r.path
    rw [hn] at hfiles hkept hnext
    rw [hreopen]
    refine ⟨rfl, hfiles, fun _ k ⟨l, hl⟩ => ⟨l, hkept l _ hl⟩, ?_⟩
    rintro _ ⟨⟩
    exact hnext n rfl

theorem reopen_of_opens (h : fs.Opens r.path) :
    (r.reopen fs).1 = .ok () ∧ (r.reopen fs).2.1.handle.isSome := by
  rcases reopen_cases r fs with ⟨hno, -⟩ | ⟨n, fs', -, hreopen⟩
  · exact absurd h hno
  · rw [hreopen]
    exact ⟨rfl, rfl⟩

theorem prepared_ensureOpen (h : Usable r fs) :
    Prepared 0 0 r fs (r.ensureOpen fs).2.1 (r.ensureOpen fs).2.2 := by
  unfold ensureOpen
  split
  · exact .refl h
  · exact prepared_reopen h

/-- A file is open afterwards exactly if nothing failed. -/
theorem ensureOpen_ok_iff (r : Rotator) (fs : FileSystem) :
    (r.ensureOpen fs).1 = .ok () ↔ (r.ensureOpen fs).2.1.handle.isSome := by
  unfold ensureOpen
  split
  · rename_i hsome
    exact ⟨fun _ => hsome, fun _ => rfl⟩
  · rename_i hnone
    rcases reopen_cases r fs with ⟨-, e, he⟩ | ⟨n, fs', -, hreopen⟩
    · rw [he]
      exact ⟨fun h => (nomatch h), fun h => absurd h hnone⟩
    · rw [hreopen]
      exact ⟨fun _ => rfl, fun _ => rfl⟩

/-- A path that can be opened still can be afterwards. -/
theorem ensureOpen_of_opens (hs : fs.Sound) (h : fs.Opens r.path) :
    (r.ensureOpen fs).1 = .ok () ∧ (r.ensureOpen fs).2.2.Opens r.path := by
  unfold ensureOpen
  split
  · exact ⟨rfl, h⟩
  · refine ⟨(reopen_of_opens h).1, ?_⟩
    rcases reopen_cases r fs with ⟨hno, -⟩ | ⟨n, fs', hn, hreopen⟩
    · exact absurd h hno
    · have hagain := h.openAppend hs
      rw [hn] at hagain
      rw [hreopen]
      exact hagain

/-! ## Rotating -/

theorem rearranged_removeFiles (hs : fs.Sound) (paths : List String) :
    Rearranged fs (paths.foldl (fun fs old => (fs.removeFile old).2) fs) := by
  induction paths generalizing fs with
  | nil => exact .refl hs
  | cons p paths ih =>
    have hremoved := rearranged_removeFile hs p
    exact hremoved.trans (ih hremoved.sound)

theorem rearranged_prune (hs : fs.Sound) (path : String) (keep : Nat) :
    Rearranged fs (prune path keep fs) :=
  rearranged_removeFiles hs _

/-- Moving the file away does nothing, or it gives what stands at the path a free name beside it. -/
theorem rename_backup {path : String} (hs : fs.Sound) (hnamed : path.toList.getLast? ≠ some '/')
    (t : Timestamp) :
    (∃ e, fs.rename path (backupPath path t fs) = (.error e, fs)) ∨
    ∃ dir name new x, fs.place path = .ok ⟨dir, .name name, false⟩ ∧
      name.utf8ByteSize ≤ nameLimit ∧ fs.node? (dir ++ [name]) = some x ∧
      Movable fs (dir ++ [name]) (dir ++ [new]) ∧
      fs.rename path (backupPath path t fs) =
        (.ok (), fs.relocate (dir ++ [name]) (dir ++ [new])) := by
  cases hrename : fs.rename path (backupPath path t fs) with
  | mk result fs' =>
  cases result with
  | error e =>
    obtain rfl := rename_error hs hrename
    exact .inl ⟨e, rfl⟩
  | ok u =>
    have hok : (fs.rename path (backupPath path t fs)).1 = .ok () := congrArg Prod.fst hrename
    obtain ⟨dir, name, trailing, x, hplace, hshort, hx⟩ := source_of_rename hok
    obtain rfl : trailing = false := (place_trailing hplace).trans (by simpa using hnamed)
    obtain ⟨m, hpath, hunused, -⟩ := exists_backupPath (t := t) hplace
    rw [hpath] at hok hrename
    obtain ⟨hplace', hshort'⟩ := place_of_rename hplace (not_mem_suffix t m (.inl rfl))
      (not_mem_suffix t m (.inr rfl)) hx hok
    have hfree := free_of_not_has hplace' hshort' hunused
    have hmovable : Movable fs (dir ++ [name]) (dir ++ [name ++ suffix t.stamp m]) := by
      refine ⟨by simp, hfree, by rw [List.dropLast_concat]; exact hs.node?_dir hx, fun hup => ?_⟩
      have heq := hup.eq_of_length (by simp)
      exact append_suffix_ne name t.stamp m (by simpa using heq.symm)
    have hmove := rename_eq_relocate hplace hplace' hshort hshort' hx hfree
    exact .inr ⟨dir, name, _, x, hplace, hshort, hx, hmovable, by rw [← hrename, hmove]⟩

/-- A rotation, which lets go of the open file first. It fails where the file cannot be moved, and
then the path is opened again, or where the path cannot be opened after the move. -/
theorem rotate_cases (h : Usable r fs) (t : Timestamp) :
    (∃ e, r.rotate t fs = (.error e, (reopen { r with handle := none } fs).2)) ∨
    ∃ dir name new x, fs.place r.path = .ok ⟨dir, .name name, false⟩ ∧
      name.utf8ByteSize ≤ nameLimit ∧ fs.node? (dir ++ [name]) = some x ∧
      Movable fs (dir ++ [name]) (dir ++ [new]) ∧
      ((∃ e, (fs.relocate (dir ++ [name]) (dir ++ [new])).openAppend r.path =
            (.error e, fs.relocate (dir ++ [name]) (dir ++ [new])) ∧
          r.rotate t fs = (.error e, { r with handle := none },
            fs.relocate (dir ++ [name]) (dir ++ [new]))) ∨
        ∃ n fs', (fs.relocate (dir ++ [name]) (dir ++ [new])).openAppend r.path = (.ok n, fs') ∧
          r.rotate t fs = (.ok (), { r with handle := some n, size := 0 },
            if r.maxBackups = 0 then fs' else prune r.path r.maxBackups fs')) := by
  unfold rotate
  rcases rename_backup h.sound h.named t with
    ⟨e, he⟩ | ⟨dir, name, new, x, hplace, hshort, hx, hmove, hrename⟩
  · refine .inl ?_
    simp only [he]
    split
    · rename_i hreopen
      rw [hreopen]
      exact ⟨_, rfl⟩
    · rename_i hreopen
      rw [hreopen]
      exact ⟨_, rfl⟩
  · refine .inr ⟨dir, name, new, x, hplace, hshort, hx, hmove, ?_⟩
    simp only [hrename]
    split
    · rename_i e fs' hopen
      obtain rfl := openAppend_error hopen
      exact .inl ⟨e, hopen, rfl⟩
    · rename_i n fs' hopen
      exact .inr ⟨n, fs', hopen, rfl⟩

/-- A rotation that fails takes the name of no file, for the one that was moved has its new one. -/
theorem prepared_rotate_error (h : Usable r fs) {e : IoError}
    (he : (r.rotate t fs).1 = .error e) :
    Prepared 0 0 r fs (r.rotate t fs).2.1 (r.rotate t fs).2.2 := by
  have hreleased : Prepared 0 0 r fs { r with handle := none } fs :=
    ⟨rfl, .refl h.sound, fun _ _ hn => hn, fun _ hn => (nomatch hn)⟩
  rcases rotate_cases h t with
    ⟨e', hrotate⟩ | ⟨dir, name, new, x, -, -, -, hmove, ⟨e', -, hrotate⟩ | ⟨n, fs', -, hrotate⟩⟩
  · rw [hrotate]
    exact hreleased.trans (prepared_reopen (hreleased.usable h))
  · rw [hrotate]
    exact ⟨rfl, hmove.rearranged h.sound, fun _ _ hn => hmove.linked h.sound hn,
      fun _ hn => (nomatch hn)⟩
  · rw [hrotate] at he
    cases he

theorem rotate_ok (h : Usable r fs) (hok : (r.rotate t fs).1 = .ok ()) :
    ∃ n fs', r.rotate t fs = (.ok (), { r with handle := some n, size := 0 }, fs') ∧
      Rearranged fs fs' ∧ n < fs'.next := by
  rcases rotate_cases h t with
    ⟨e, hrotate⟩ | ⟨dir, name, new, x, -, -, -, hmove, ⟨e, -, hrotate⟩ | ⟨n, fs', hn, hrotate⟩⟩
  · rw [hrotate] at hok
    cases hok
  · rw [hrotate] at hok
    cases hok
  · have hmoved := hmove.rearranged h.sound
    obtain ⟨hopened, -, hnext⟩ := rearranged_openAppend hmoved.sound r.path
    rw [hn] at hopened hnext
    have hpruned : Rearranged fs' (if r.maxBackups = 0 then fs' else
        prune r.path r.maxBackups fs') := by
      split_ifs
      · exact .refl hopened.sound
      · exact rearranged_prune hopened.sound _ _
    exact ⟨n, _, hrotate, (hmoved.trans hopened).trans hpruned,
      Nat.lt_of_lt_of_le (hnext n rfl) hpruned.next⟩

/-- A rotation is counted once, and only one that is counted as a success takes names. -/
theorem prepared_rotateCounted (h : Usable r fs) (t : Timestamp) :
    ∃ succeeded failed, succeeded + failed = 1 ∧
      Prepared succeeded failed r fs (r.rotateCounted t fs).1 (r.rotateCounted t fs).2 := by
  unfold rotateCounted
  split
  · rename_i u r' fs' hrotate
    obtain ⟨n, fs'', hok, hfiles, hnext⟩ := rotate_ok (t := t) h (by rw [hrotate])
    obtain ⟨rfl, rfl⟩ : r' = { r with handle := some n, size := 0 } ∧ fs' = fs'' := by
      simpa [hrotate] using hok
    refine ⟨1, 0, rfl, rfl, hfiles, fun h => absurd h (by decide), ?_⟩
    rintro _ ⟨⟩
    exact hnext
  · rename_i e r' fs' hrotate
    have hprepared := prepared_rotate_error (t := t) h (by rw [hrotate])
    rw [hrotate] at hprepared
    exact ⟨0, 1, rfl,
      congrArg (fun s : Rotator => { s with failures := s.failures + 1 }) hprepared.rest,
      hprepared.files, hprepared.linked, hprepared.handle⟩

/-- After a rotation of a file whose path could be opened there is an open file, whether or not it
succeeded. -/
theorem rotate_of_opens (h : Usable r fs) (ho : fs.Opens r.path) :
    (r.rotate t fs).2.1.handle.isSome := by
  rcases rotate_cases h t with
    ⟨e, hrotate⟩ | ⟨dir, name, new, x, hplace, hshort, hx, hmove, hcase⟩
  · rw [hrotate]
    exact (reopen_of_opens (r := { r with handle := none }) ho).2
  · -- what was moved is a file, so that a new one can be made in its place
    obtain ⟨n, rfl⟩ : ∃ n, x = .file n := by
      obtain ⟨dir', name', hplace', -, hnode⟩ := opens_iff.mp ho
      obtain ⟨rfl, rfl⟩ : dir = dir' ∧ name = name' := by simpa [hplace] using hplace'
      cases x with
      | dir => exact absurd hx hnode
      | file n => exact ⟨n, rfl⟩
    have hopen := openAppend_new
      (place_mono (fun l hl => node?_relocate_dir h.sound hx hmove.free hl) hplace) hshort
      (by
        rw [h.sound.node?_relocate (by simp) hx hmove.free, if_neg, if_pos rfl]
        intro heq
        rw [heq, hmove.free] at hx
        cases hx)
    rcases hcase with ⟨e, he, -⟩ | ⟨k, fs', -, hrotate⟩
    · rw [hopen] at he
      cases he
    · rw [hrotate]
      rfl

theorem handle_rotateCounted (r : Rotator) (t : Timestamp) (fs : FileSystem) :
    (r.rotateCounted t fs).1.handle = (r.rotate t fs).2.1.handle := by
  unfold rotateCounted
  split
  · rename_i hrotate
    rw [hrotate]
  · rename_i hrotate
    rw [hrotate]

/-! ## Writing -/

/-- A write has to try a rotation: the file that is open, or the one that is opened since there is
none, would grow beyond the limit. -/
def Attempts (r : Rotator) (length : Nat) (fs : FileSystem) : Prop :=
  r.closed = false ∧ 0 < r.maxSize ∧
    ((∃ n, r.handle = some n) ∧ r.maxSize < r.size + length ∨
      r.handle = none ∧ ∃ n fs', fs.openAppend r.path = (.ok n, fs') ∧
        r.maxSize < (fs'.content n).length + length)

theorem attempts_iff (hrunning : r.closed = false) : r.Attempts length fs ↔
    (r.ensureOpen fs).1 = .ok () ∧ (r.ensureOpen fs).2.1.isDue length = true := by
  cases hhandle : r.handle with
  | some n =>
    rw [ensureOpen_eq hhandle]
    simp [Attempts, isDue, hrunning, hhandle]
  | none =>
    have hreopen : r.ensureOpen fs = r.reopen fs := by
      rw [ensureOpen, if_neg (by simp [hhandle])]
    rw [hreopen]
    rcases reopen_cases r fs with ⟨hno, e, he⟩ | ⟨n, fs', hn, hok⟩
    · have hfails : ∀ n fs', fs.openAppend r.path ≠ (.ok n, fs') := fun n fs' hn =>
        hno ⟨n, by rw [hn]⟩
      simp [Attempts, hhandle, he, hfails]
    · simp [Attempts, isDue, hrunning, hhandle, hn, hok]

theorem put_of_handle {n : Nat} (h : r.handle = some n) (bytes : Bytes) (fs : FileSystem) :
    r.put bytes fs =
      (.ok bytes.length, { r with size := r.size + bytes.length }, fs.append n bytes) := by
  rw [put, h]

/-- A write, taken apart: it tries to rotate at most once, and then the octets are put into the open
file, unless there is none because the path could not be opened. -/
theorem write_cases (h : Usable r fs) (hrunning : r.closed = false) (t : Timestamp)
    (bytes : Bytes) :
    ∃ succeeded failed r' fs', Prepared succeeded failed r fs r' fs' ∧
      (r.Attempts bytes.length fs ∧ succeeded + failed = 1 ∨
        ¬r.Attempts bytes.length fs ∧ succeeded + failed = 0) ∧
      ((∃ e, r.write t bytes fs = (.error e, r', fs') ∧ ¬fs.Opens r.path) ∨
        ∃ n, r'.handle = some n ∧ r.write t bytes fs =
          (.ok bytes.length, { r' with size := r'.size + bytes.length }, fs'.append n bytes)) := by
  have hopened := prepared_ensureOpen h
  have hopens := ensureOpen_of_opens (r := r) h.sound
  have hsome := ensureOpen_ok_iff r fs
  rw [attempts_iff hrunning]
  unfold write
  rw [if_neg (by simp [hrunning])]
  generalize r.ensureOpen fs = x at hopened hopens hsome ⊢
  obtain ⟨result, r₁, fs₁⟩ := x
  cases result with
  | error e =>
    refine ⟨0, 0, r₁, fs₁, hopened, .inr ⟨by simp, rfl⟩, .inl ⟨e, rfl, fun ho => ?_⟩⟩
    cases (hopens ho).1
  | ok u =>
    have hu := hopened.usable h
    dsimp only at hopened hopens hsome hu ⊢
    by_cases hdue : r₁.isDue bytes.length = true
    · obtain ⟨a, b, hone, hrotated⟩ := prepared_rotateCounted hu t
      have hprepared := hopened.trans (hrotated.trans (prepared_ensureOpen (hrotated.usable hu)))
      have hagain := ensureOpen_ok_iff (r₁.rotateCounted t fs₁).1 (r₁.rotateCounted t fs₁).2
      rw [if_pos hdue]
      have hkeeps : fs.Opens r.path →
          ((r₁.rotateCounted t fs₁).1.ensureOpen (r₁.rotateCounted t fs₁).2).1 = .ok () := by
        intro ho
        have hhandle := rotate_of_opens (t := t) hu (by rw [hopened.path]; exact (hopens ho).2)
        rw [← handle_rotateCounted] at hhandle
        rw [ensureOpen, if_pos hhandle]
      generalize (r₁.rotateCounted t fs₁).1.ensureOpen (r₁.rotateCounted t fs₁).2 = y
        at hprepared hagain hkeeps ⊢
      obtain ⟨result, r₂, fs₂⟩ := y
      refine ⟨_, _, r₂, fs₂, hprepared, .inl ⟨⟨rfl, hdue⟩, by omega⟩, ?_⟩
      cases result with
      | error e =>
        refine .inl ⟨e, rfl, fun ho => ?_⟩
        cases hkeeps ho
      | ok u =>
        obtain ⟨n, hn⟩ := Option.isSome_iff_exists.mp (hagain.mp rfl)
        exact .inr ⟨n, hn, put_of_handle hn bytes fs₂⟩
    · obtain ⟨n, hn⟩ := Option.isSome_iff_exists.mp (hsome.mp rfl)
      rw [if_neg hdue]
      exact ⟨0, 0, r₁, fs₁, hopened, .inr ⟨fun hd => hdue hd.2, rfl⟩,
        .inr ⟨n, hn, put_of_handle hn bytes fs₁⟩⟩

theorem Usable.write (h : Usable r fs) (t : Timestamp) (bytes : Bytes) :
    Usable (r.write t bytes fs).2.1 (r.write t bytes fs).2.2 := by
  cases hrunning : r.closed with
  | true => rwa [write_of_closed r t bytes fs hrunning]
  | false =>
    obtain ⟨a, b, r', fs', hprepared, -, ⟨e, hwrite, -⟩ | ⟨n, -, hwrite⟩⟩ :=
      write_cases h hrunning t bytes
    · rw [hwrite]
      exact hprepared.usable h
    · have hu := hprepared.usable h
      rw [hwrite]
      exact ⟨hu.sound.append n bytes, hu.handle, hu.named⟩

theorem Usable.path_write (h : Usable r fs) (t : Timestamp) (bytes : Bytes) :
    (r.write t bytes fs).2.1.path = r.path := by
  cases hrunning : r.closed with
  | true => rw [write_of_closed r t bytes fs hrunning]
  | false =>
    obtain ⟨a, b, r', fs', hprepared, -, ⟨e, hwrite, -⟩ | ⟨n, -, hwrite⟩⟩ :=
      write_cases h hrunning t bytes
    · rw [hwrite]
      exact hprepared.path
    · rw [hwrite]
      exact hprepared.path

/-! ## Runs -/

/-- What happens to a rotating file or around it. -/
inductive Act where
  | write (now : Timestamp) (bytes : Bytes)
  /-- Others change the file system. -/
  | others (change : FileSystem → FileSystem)
  | close

/-- Others may do anything that leaves a file system sound and gives no file the number of an
earlier one. -/
def Act.Lawful : Act → Prop
  | .others change => ∀ fs : FileSystem, fs.Sound → Later fs (change fs)
  | _ => True

def Act.step (s : Rotator × FileSystem) : Act → Rotator × FileSystem
  | .write now bytes => (s.1.write now bytes s.2).2
  | .others change => (s.1, change s.2)
  | .close => (s.1.close, s.2)

def run (s : Rotator × FileSystem) (acts : List Act) : Rotator × FileSystem :=
  acts.foldl Act.step s

variable {s : Rotator × FileSystem} {act : Act} {acts : List Act}

theorem Usable.step (h : Usable s.1 s.2) (hact : act.Lawful) :
    Usable (act.step s).1 (act.step s).2 ∧ (act.step s).1.path = s.1.path := by
  cases act with
  | write now bytes => exact ⟨h.write now bytes, h.path_write now bytes⟩
  | others change =>
    have hlater := hact s.2 h.sound
    exact ⟨⟨hlater.sound, fun n hn => Nat.lt_of_lt_of_le (h.handle n hn) hlater.next, h.named⟩, rfl⟩
  | close => exact ⟨⟨h.sound, fun _ hn => (nomatch hn), h.named⟩, rfl⟩

theorem Usable.run (h : Usable s.1 s.2) (hacts : ∀ act ∈ acts, act.Lawful) :
    Usable (run s acts).1 (run s acts).2 ∧ (run s acts).1.path = s.1.path := by
  induction acts generalizing s with
  | nil => exact ⟨h, rfl⟩
  | cons act acts ih =>
    obtain ⟨hstep, hpath⟩ := h.step (hacts act List.mem_cons_self)
    obtain ⟨hrun, hpath'⟩ := ih hstep fun a ha => hacts a (List.mem_cons_of_mem _ ha)
    exact ⟨hrun, hpath'.trans hpath⟩

variable {path : String} {maxSize maxBackups : Nat} {fs₀ : FileSystem}

end LogPipeline.Rotator
