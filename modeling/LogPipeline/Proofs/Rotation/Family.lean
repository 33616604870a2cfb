import LogPipeline.Proofs.File.Shown
import LogPipeline.Proofs.Rotation.Backups

/-!
# The family of a rotating file

A rotating file and the files moved away from it stand under the names of one family in its
directory. Two files whose names do not go on from one another with a point have no name in common
(`Apart.disjoint`). What is listed of a family, read from it and removed from it depends on nothing
but what is shown under its names.
-/

namespace LogPipeline.Rotator

open FileSystem

/-- The name is that of the file or of one moved away from it. -/
def InFamily (name n : String) : Prop := n = name ∨ isBackup name n = true

/-- Neither of two names goes on from the other with a point, nor are they the same. -/
structure Apart (a b : String) : Prop where
  ne : a ≠ b
  left : isBackup a b = false
  right : isBackup b a = false

/-- The names of the files moved away, in the order in which they are listed. -/
def backupNames (fs : FileSystem) (dir : Location) (name : String) : List String :=
  ((fs.namesIn dir).filter (isBackup name)).mergeSort fun a b => a ≤ b

/-- What is shown under the names of a family is the same. -/
def SameFamily (dir : Location) (name : String) (fs fs' : FileSystem) : Prop :=
  ∀ n, InFamily name n → fs'.shown (dir ++ [n]) = fs.shown (dir ++ [n])

/-- What can be removed of the files moved away: a file that has a path. -/
structure Removable (fs : FileSystem) (path : String) (dir : Location) (n : String) : Prop where
  size : (Path.join (directory path) n).utf8ByteSize ≤ pathLimit
  short : n.utf8ByteSize ≤ nameLimit
  file : ∃ bytes, fs.shown (dir ++ [n]) = some (some bytes)

/-- Removes some of the files moved away, as far as they can be removed. -/
def removeEntries (path : String) (names : List String) (fs : FileSystem) : FileSystem :=
  names.foldl (fun fs n => (fs.removeFile (Path.join (directory path) n)).2) fs

variable {fs fs' : FileSystem} {path name n a b : String} {dir : Location} {t : Timestamp}

/-! ## Names -/

theorem isBackup_iff : isBackup name n = true ↔ name.toList ++ ['.'] <+: n.toList := by
  rw [isBackup, List.isPrefixOf_iff_prefix, String.toList_append]
  rfl

theorem exists_of_isBackup (h : isBackup name n = true) : ∃ s, n = name ++ s := by
  obtain ⟨rest, hrest⟩ := isBackup_iff.mp h
  refine ⟨String.ofList ('.' :: rest), String.toList_injective ?_⟩
  rw [String.toList_append, String.toList_ofList, ← hrest, List.append_assoc]
  rfl

theorem InFamily.self (name : String) : InFamily name name := .inl rfl

theorem InFamily.suffix (name stamp : String) (i : Nat) :
    InFamily name (name ++ suffix stamp i) := .inr (isBackup_suffix name stamp i)

theorem ne_of_isBackup (h : isBackup name n = true) : n ≠ name := by
  rintro rfl
  rw [isBackup_self] at h
  cases h

theorem Apart.symm (h : Apart a b) : Apart b a := ⟨h.ne.symm, h.right, h.left⟩

/-- A longer name of which two names with a point behind are beginnings would make one of them go
on from the other. -/
theorem Apart.not_prefix (h : Apart a b) : ¬a.toList ++ ['.'] <+: b.toList ++ ['.'] := by
  intro hp
  rcases List.prefix_concat_iff.mp hp with heq | hp
  · exact h.ne (String.toList_injective (List.append_cancel_right heq))
  · have hleft := h.left
    rw [isBackup_iff.mpr hp] at hleft
    cases hleft

/-- Families of names that are apart have no name in common. -/
theorem Apart.disjoint (h : Apart a b) (ha : InFamily a n) : ¬InFamily b n := by
  rintro (rfl | hb)
  · rcases ha with heq | ha
    · exact h.ne heq.symm
    · rw [h.left] at ha
      cases ha
  · rcases ha with rfl | ha
    · rw [h.right] at hb
      cases hb
    · rcases List.prefix_or_prefix_of_prefix (isBackup_iff.mp ha) (isBackup_iff.mp hb) with hp | hp
      · exact h.not_prefix hp
      · exact h.symm.not_prefix hp

theorem Apart.location_ne (h : Apart a b) (hb : InFamily b n) (dir : Location) :
    ∀ m, InFamily a m → dir ++ [n] ≠ dir ++ [m] := by
  intro m hm heq
  obtain rfl : n = m := by simpa using heq
  exact h.disjoint hm hb

theorem SameFamily.refl (dir : Location) (name : String) (fs : FileSystem) :
    SameFamily dir name fs fs := fun _ _ => rfl

/-! ## The paths of a family -/

/-- The path under which a file moved away is listed leads to it, unless it is too long. -/
theorem place_entry (h : fs.place path = .ok ⟨dir, .name name, false⟩)
    (hn : isBackup name n = true) (hplain : Plain n) :
    fs.place (Path.join (directory path) n) =
      if pathLimit < (Path.join (directory path) n).utf8ByteSize then .error (.os .nameTooLong)
      else .ok ⟨dir, .name n, false⟩ := by
  obtain ⟨-, hne, hnuldir, -, hfollow, -⟩ := directory_spec h
  obtain ⟨front, hsplit, -, -, -, h₁, h₂⟩ := exists_splits_of_place h
  obtain ⟨s, rfl⟩ := exists_of_isBackup hn
  obtain ⟨hdot, hdots⟩ := append_ne_dots (s := s) hsplit.nonempty h₁ h₂
  have hnonempty : name ++ s ≠ "" := by
    intro hnil
    have hname := (List.append_eq_nil_iff.mp
      ((String.toList_append (s := name) (t := s)).symm.trans (congrArg String.toList hnil))).1
    exact hsplit.nonempty (String.toList_injective hname)
  obtain ⟨front', hsplit', hnames⟩ := splits_join hne hplain.slash hnonempty
  have hnul := hasNul_join hnuldir hplain.nul
  split_ifs with hsize
  · have hempty : (Path.join (directory path) (name ++ s)).isEmpty = false := by
      simpa using hsplit'.ne_empty
    rw [FileSystem.place, if_neg (by simp [hnul]), if_neg (by simp [hempty]), if_pos hsize]
  · exact hsplit'.place_eq hnul (Nat.le_of_not_lt hsize) (by rw [hnames, hfollow]) hdot hdots

/-- A file moved away is removed if it can be, and otherwise nothing happens. -/
theorem removeFile_entry (h : fs.place path = .ok ⟨dir, .name name, false⟩)
    (hn : isBackup name n = true) (hplain : Plain n) :
    (Removable fs path dir n ∧ (∃ k, fs.node? (dir ++ [n]) = some (.file k)) ∧
        (fs.removeFile (Path.join (directory path) n)).2 = fs.unlink (dir ++ [n])) ∨
      ¬Removable fs path dir n ∧ (fs.removeFile (Path.join (directory path) n)).2 = fs := by
  have hplace := place_entry h hn hplain
  split_ifs at hplace with hsize
  · exact .inr ⟨fun hr => absurd hr.size (Nat.not_le.mpr hsize), by simp [removeFile, hplace]⟩
  by_cases hshort : nameLimit < n.utf8ByteSize
  · exact .inr ⟨fun hr => absurd hr.short (Nat.not_le.mpr hshort),
      by simp [removeFile, hplace, hshort]⟩
  cases hx : fs.node? (dir ++ [n]) with
  | none =>
    refine .inr ⟨fun hr => ?_, by simp [removeFile, hplace, hshort, hx]⟩
    obtain ⟨bytes, hb⟩ := hr.file
    rw [shown, hx] at hb
    cases hb
  | some x =>
    cases x with
    | dir =>
      refine .inr ⟨fun hr => ?_, by simp [removeFile, hplace, hshort, hx]⟩
      obtain ⟨bytes, hb⟩ := hr.file
      rw [shown, hx] at hb
      cases hb
    | file k =>
      have hremovable : Removable fs path dir n :=
        ⟨Nat.le_of_not_lt hsize, Nat.le_of_not_lt hshort, _, shown_file hx⟩
      refine .inl ⟨hremovable, ⟨k, rfl⟩, ?_⟩
      rw [removeFile_eq_unlink hplace (Nat.le_of_not_lt hshort) hx]

/-- What a free name beside the file has to do with what is shown. -/
theorem has_suffix (h : fs.place path = .ok ⟨dir, .name name, false⟩) (t : Timestamp) (i : Nat) :
    fs.has (path ++ suffix t.stamp i) = true ↔
      (path ++ suffix t.stamp i).utf8ByteSize ≤ pathLimit ∧
        (name ++ suffix t.stamp i).utf8ByteSize ≤ nameLimit ∧
        (fs.shown (dir ++ [name ++ suffix t.stamp i])).isSome := by
  by_cases hsize : (path ++ suffix t.stamp i).utf8ByteSize ≤ pathLimit
  · have hplace :=
      place_append h (not_mem_suffix t i (.inl rfl)) (not_mem_suffix t i (.inr rfl)) hsize
    rw [has_eq hplace, and_iff_right hsize]
  · refine iff_of_false (fun hhas => hsize ?_) fun hall => hsize hall.1
    cases hp : fs.place (path ++ suffix t.stamp i) with
    | error e => simp [has, find, hp, bind, Except.bind, Except.toOption] at hhas
    | ok p => exact size_le_of_place hp

/-! ## What is listed -/

theorem mem_backupNames (hs : fs.Sound) : n ∈ backupNames fs dir name ↔
    isBackup name n = true ∧ (fs.shown (dir ++ [n])).isSome := by
  rw [backupNames, List.mem_mergeSort, List.mem_filter, hs.mem_namesIn, shown, Option.isSome_map,
    Option.isSome_iff_exists, and_comm]

/-- The listing of a family depends on what is shown of it only. -/
theorem SameFamily.listed (h : SameFamily dir name fs fs') (hs : fs.Sound) (hs' : fs'.Sound) :
    backupNames fs' dir name = backupNames fs dir name := by
  have hperm : (backupNames fs' dir name).Perm (backupNames fs dir name) := by
    refine (List.perm_ext_iff_of_nodup ?_ ?_).mpr fun n => ?_
    · exact List.nodup_mergeSort.mpr ((hs'.nodup_namesIn dir).filter _)
    · exact List.nodup_mergeSort.mpr ((hs.nodup_namesIn dir).filter _)
    · rw [mem_backupNames hs, mem_backupNames hs']
      exact and_congr_right fun hn => by rw [h n (.inr hn)]
  exact hperm.eq_of_pairwise (fun _ _ _ _ hab hba => String.le_antisymm hab hba)
    (pairwise_sorted _) (pairwise_sorted _)

theorem backups_names (h : fs.place path = .ok ⟨dir, .name name, false⟩) :
    backups path fs = (backupNames fs dir name).map (Path.join (directory path)) := backups_eq h

theorem removeEntries_cons (path n : String) (names : List String) (fs : FileSystem) :
    removeEntries path (n :: names) fs =
      removeEntries path names (fs.removeFile (Path.join (directory path) n)).2 := by
  simp only [removeEntries, List.foldl_cons]

theorem prune_eq (h : fs.place path = .ok ⟨dir, .name name, false⟩) (keep : Nat) :
    prune path keep fs = removeEntries path
      ((backupNames fs dir name).take ((backupNames fs dir name).length - keep)) fs := by
  rw [prune, backups_names h, List.length_map, ← List.map_take, List.foldl_map]
  rfl

/-- What is listed are names of files moved away. -/
theorem plain_of_listed (hs : fs.Sound) (hnamed : fs.Named) (h : n ∈ backupNames fs dir name) :
    isBackup name n = true ∧ Plain n := by
  obtain ⟨hn, hsome⟩ := (mem_backupNames hs).mp h
  rw [shown, Option.isSome_map, Option.isSome_iff_exists] at hsome
  obtain ⟨x, hx⟩ := hsome
  exact ⟨hn, hnamed dir n x hx⟩

end LogPipeline.Rotator
