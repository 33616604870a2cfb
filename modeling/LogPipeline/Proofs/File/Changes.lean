import LogPipeline.Proofs.File.Listing
import LogPipeline.Proofs.File.Operations

/-!
# What becomes of a file system

No operation makes a file system unsound or gives out the number of a file again (`Later`), whatever
it does to names and contents. Those that make, move and remove names only, and new empty files,
leave what each file holds as it is, whether it still has a name or not (`Rearranged`).
-/

namespace LogPipeline.FileSystem

/-- What a file holds, with a name or without; nothing as long as there is no file of the number. -/
def held (fs : FileSystem) (n : Nat) : Bytes := if n < fs.next then fs.content n else []

/-- A file has a name. -/
def Linked (fs : FileSystem) (n : Nat) : Prop := ∃ l, fs.node? l = some (.file n)

/-- A path could be opened for appending. -/
def Opens (fs : FileSystem) (path : String) : Prop := ∃ n, (fs.openAppend path).1 = .ok n

/-- What a file system may have become some time later. -/
structure Later (fs fs' : FileSystem) : Prop where
  sound : fs'.Sound
  next : fs.next ≤ fs'.next

/-- Names have changed, and there may be new empty files. -/
structure Rearranged (fs fs' : FileSystem) : Prop extends Later fs fs' where
  held : ∀ n, fs'.held n = fs.held n

variable {fs fs' fs'' : FileSystem} {path newPath : String} {src dst : Location}

theorem Later.refl (hs : fs.Sound) : Later fs fs := ⟨hs, Nat.le_refl _⟩

theorem Later.trans (h : Later fs fs') (h' : Later fs' fs'') : Later fs fs'' :=
  ⟨h'.sound, Nat.le_trans h.next h'.next⟩

theorem Rearranged.refl (hs : fs.Sound) : Rearranged fs fs := ⟨.refl hs, fun _ => rfl⟩

theorem Rearranged.trans (h : Rearranged fs fs') (h' : Rearranged fs' fs'') :
    Rearranged fs fs'' :=
  ⟨h.toLater.trans h'.toLater, fun n => (h'.held n).trans (h.held n)⟩

/-- Where no file was made and none was written to, only names have changed. -/
theorem Rearranged.of_content (hs : fs'.Sound) (hnext : fs'.next = fs.next)
    (hcontent : ∀ n, fs'.content n = fs.content n) : Rearranged fs fs' :=
  ⟨⟨hs, Nat.le_of_eq hnext.symm⟩, fun n => by
    rw [FileSystem.held, FileSystem.held, hnext, hcontent]⟩

/-! ## Opening -/

/-- Opening loses no name and writes to no file, and there is a file of the number afterwards. -/
theorem rearranged_openAppend (hs : fs.Sound) (path : String) :
    Rearranged fs (fs.openAppend path).2 ∧
      (∀ l x, fs.node? l = some x → (fs.openAppend path).2.node? l = some x) ∧
      ∀ n, (fs.openAppend path).1 = .ok n → n < (fs.openAppend path).2.next := by
  have hgrows := openAppend_grows hs path
  cases h : fs.openAppend path with
  | mk result fs' =>
  rw [h] at hgrows
  cases result with
  | error e =>
    obtain rfl : fs' = fs := openAppend_error h
    exact ⟨.refl hs, fun _ _ hx => hx, fun _ hn => nomatch hn⟩
  | ok number =>
    obtain ⟨dir, name, -, -, ⟨hfile, rfl⟩ | ⟨-, rfl, rfl⟩⟩ := openAppend_ok h
    · refine ⟨.refl hs, fun _ _ hx => hx, ?_⟩
      rintro _ ⟨⟩
      exact hs.numbered _ _ hfile
    · refine ⟨⟨⟨hgrows.1, Nat.le_succ _⟩, fun n => ?_⟩, hgrows.2.1, ?_⟩
      · rw [FileSystem.held, FileSystem.held, content_newFile]
        show (if n < fs.next + 1 then _ else _) = _
        split_ifs <;> first | rfl | omega
      · rintro _ ⟨⟩
        exact Nat.lt_succ_self _

/-- What can be opened: a path to a name that is not too long and no directory's. -/
theorem opens_iff : fs.Opens path ↔ ∃ dir name, fs.place path = .ok ⟨dir, .name name, false⟩ ∧
    name.utf8ByteSize ≤ nameLimit ∧ fs.node? (dir ++ [name]) ≠ some .dir := by
  constructor
  · rintro ⟨n, hn⟩
    obtain ⟨dir, name, hplace, hshort, ⟨hfile, -⟩ | ⟨hfree, -⟩⟩ := openAppend_ok (Prod.ext hn rfl)
    · exact ⟨dir, name, hplace, hshort, by simp [hfile]⟩
    · exact ⟨dir, name, hplace, hshort, by simp [hfree]⟩
  · rintro ⟨dir, name, hplace, hshort, hnode⟩
    cases hx : fs.node? (dir ++ [name]) with
    | none => exact ⟨_, congrArg Prod.fst (openAppend_new hplace hshort hx)⟩
    | some x =>
      cases x with
      | dir => exact absurd hx hnode
      | file n =>
        refine ⟨n, ?_⟩
        simp [openAppend, hplace, Nat.not_lt.mpr hshort, hx]

/-- What has been opened can be opened again. -/
theorem Opens.openAppend (h : fs.Opens path) (hs : fs.Sound) :
    (fs.openAppend path).2.Opens path := by
  obtain ⟨n, hn⟩ := h
  obtain ⟨l, hfind⟩ := find_of_openAppend (Prod.ext hn rfl)
  obtain ⟨dir, name, hplace, hshort, -⟩ := opens_iff.mp ⟨n, hn⟩
  have hkept := (rearranged_openAppend hs path).2.1
  have hplace := place_mono (fun l hl => hkept l .dir hl) hplace
  refine opens_iff.mpr ⟨dir, name, hplace, hshort, fun hdir => ?_⟩
  have hfile := (hfind _ fun _ _ hx => hx).1
  rw [find_name hplace hshort hdir] at hfile
  simp at hfile

/-! ## Removing -/

theorem removeFile_cases (fs : FileSystem) (path : String) : (fs.removeFile path).2 = fs ∨
    ∃ l n, fs.node? l = some (.file n) ∧ (fs.removeFile path).2 = fs.unlink l := by
  unfold removeFile
  split
  · exact .inl rfl
  · split
    · exact .inl rfl
    · exact .inl rfl
    · split
      · exact .inl rfl
      · split
        · exact .inl rfl
        · exact .inl rfl
        · rename_i n hn
          split
          · exact .inl rfl
          · exact .inr ⟨_, n, hn, rfl⟩

theorem rearranged_removeFile (hs : fs.Sound) (path : String) :
    Rearranged fs (fs.removeFile path).2 := by
  rcases removeFile_cases fs path with h | ⟨l, n, hn, h⟩
  · rw [h]
    exact .refl hs
  · rw [h]
    exact .of_content (hs.unlink_file hn) rfl fun _ => rfl

theorem node?_clear (fs : FileSystem) (dir m : Location) (hm : m ≠ []) :
    (fs.clear dir).node? m = if isBelow dir m then none else fs.node? m := by
  rw [node?_of_ne_nil hm, node?_of_ne_nil hm]
  unfold clear
  induction fs.entries with
  | nil => simp
  | cons e rest ih =>
    obtain ⟨k, n⟩ := e
    by_cases hk : isBelow dir k
    · rw [List.filter_cons_of_neg (by simp [hk])]
      by_cases h : m = k
      · subst h
        simpa [hk] using ih
      · simpa [List.lookup_cons, show (m == k) = false from beq_false_of_ne h] using ih
    · rw [List.filter_cons_of_pos (by simpa using hk)]
      by_cases h : m = k
      · subst h
        simp [hk]
      · simpa [List.lookup_cons, show (m == k) = false from beq_false_of_ne h] using ih

theorem isBelow_iff {dir l : Location} : isBelow dir l = true ↔ dir <+: l ∧ dir ≠ l := by
  rw [isBelow, Bool.and_eq_true, List.isPrefixOf_iff_prefix, bne_iff_ne]

theorem Sound.clear (h : fs.Sound) (dir : Location) : (fs.clear dir).Sound := by
  have hold : ∀ {m x}, (fs.clear dir).node? m = some x → fs.node? m = some x := by
    intro m x hm
    by_cases hnil : m = []
    · subst hnil
      exact hm
    · rw [node?_clear fs dir m hnil] at hm
      split at hm
      · cases hm
      · exact hm
  refine ⟨h.names.sublist (List.filter_sublist.map _), ?_, ?_, ?_, ?_⟩
  · exact fun e he => h.rooted e (List.mem_filter.mp he).1
  · intro e he
    obtain ⟨he, hkept⟩ := List.mem_filter.mp he
    have hd := h.held e he
    by_cases hnil : e.1.dropLast = []
    · rw [hnil]
      rfl
    · rw [node?_clear fs dir _ hnil, if_neg, hd]
      -- what stands below a directory that goes goes too
      intro hbelow
      obtain ⟨hup, -⟩ := isBelow_iff.mp hbelow
      refine absurd (isBelow_iff.mpr ⟨hup.trans <| List.dropLast_prefix e.1, fun heq => ?_⟩)
        (by simpa using hkept)
      have hlen := hup.length_le
      have hpos := List.length_pos_of_ne_nil (h.rooted e he)
      rw [heq, List.length_dropLast] at hlen
      omega
  · exact fun a b n ha hb => h.unshared a b n (hold ha) (hold hb)
  · exact fun m n hm => h.numbered m n (hold hm)

/-- An entry and the free place that it may be moved to. -/
structure Movable (fs : FileSystem) (src dst : Location) : Prop where
  source : src ≠ []
  free : fs.node? dst = none
  dir : fs.node? dst.dropLast = some .dir
  outside : ¬src <+: dst

theorem Movable.rearranged (h : Movable fs src dst) (hs : fs.Sound) :
    Rearranged fs (fs.relocate src dst) :=
  .of_content (hs.relocate_tree h.source h.free h.dir h.outside) rfl fun _ => rfl

/-- No file loses its name when it is moved. -/
theorem Movable.linked (h : Movable fs src dst) (hs : fs.Sound) {n : Nat} (hn : fs.Linked n) :
    (fs.relocate src dst).Linked n := by
  obtain ⟨l, hl⟩ := hn
  exact ⟨_, (hs.node?_relocate_iff h.source h.free).mpr ⟨l, hl, rfl⟩⟩

theorem not_prefix_of_not_below (hne : ¬(src == dst) = true) (hbelow : ¬isBelow src dst = true) :
    ¬src <+: dst := fun h =>
  hbelow (isBelow_iff.mpr ⟨h, by simpa using hne⟩)

/-- A place is free once what stood there has gone. -/
theorem Movable.of_unlink (hsrc : src ≠ []) (hdst : dst ≠ [])
    (hdir : fs.node? dst.dropLast = some .dir) (houtside : ¬src <+: dst) :
    Movable (fs.unlink dst) src dst := by
  refine ⟨hsrc, by rw [node?_unlink fs dst dst hdst, if_pos rfl], ?_, houtside⟩
  by_cases hnil : dst.dropLast = []
  · rw [hnil]
    rfl
  · rw [node?_unlink fs dst _ hnil, if_neg, hdir]
    intro heq
    have hlen := congrArg List.length heq
    have hpos := List.length_pos_of_ne_nil hdst
    rw [List.length_dropLast] at hlen
    omega

/-- Renaming does nothing, or it moves an entry to a free place, which may have been made free of a
file or an empty directory before. -/
theorem rename_cases (hs : fs.Sound) (path newPath : String) :
    (fs.rename path newPath).2 = fs ∨
    (fs.rename path newPath).1 = .ok () ∧ ∃ src dst,
      (Movable fs src dst ∧ (fs.rename path newPath).2 = fs.relocate src dst) ∨
      (∀ a, fs.node? (dst ++ [a]) = none) ∧ Movable (fs.unlink dst) src dst ∧
        (fs.rename path newPath).2 = (fs.unlink dst).relocate src dst := by
  unfold rename
  split
  · exact .inl rfl
  rename_i source hsource
  split
  · exact .inl rfl
  rename_i target htarget
  split
  rotate_left
  · exact .inl rfl
  rename_i old new hold hnew
  obtain ⟨src, hsrc⟩ : ∃ src, src = source.dir ++ [old] := ⟨_, rfl⟩
  obtain ⟨dst, hdst⟩ : ∃ dst, dst = target.dir ++ [new] := ⟨_, rfl⟩
  have hne : src ≠ [] ∧ dst ≠ [] := by simp [hsrc, hdst]
  have hdir : fs.node? dst.dropLast = some .dir := by
    rw [hdst, List.dropLast_concat]
    exact place_dir hs htarget
  simp only [← hsrc, ← hdst]
  split
  · exact .inl rfl
  split
  · exact .inl rfl
  rename_i node hnode
  split
  · exact .inl rfl
  split
  · exact .inl rfl
  split
  · exact .inl rfl
  split
  · exact .inl rfl
  split
  · exact .inl rfl
  rename_i hother hbelow _
  have houtside := not_prefix_of_not_below hother hbelow
  cases hx : fs.node? dst with
  | none => exact .inr ⟨rfl, src, dst, .inl ⟨⟨hne.1, hx, hdir, houtside⟩, rfl⟩⟩
  | some x =>
    have hunlinked := Movable.of_unlink hne.1 hne.2 hdir houtside
    cases x with
    | dir =>
      cases node with
      | file a => exact .inl rfl
      | dir =>
        dsimp only
        split
        · rename_i hempty
          refine .inr ⟨rfl, src, dst, .inr ⟨fun a => ?_, hunlinked, rfl⟩⟩
          by_contra hsome
          obtain ⟨x, hsome⟩ := Option.ne_none_iff_exists'.mp hsome
          have hmem := hs.mem_namesIn.mpr ⟨x, hsome⟩
          rw [List.isEmpty_iff.mp hempty] at hmem
          cases hmem
        · exact .inl rfl
    | file b =>
      cases node with
      | dir => exact .inl rfl
      | file a =>
        dsimp only
        split
        · exact .inl rfl
        · exact .inr ⟨rfl, src, dst,
            .inr ⟨fun a => hs.node?_below hx (by simp), hunlinked, rfl⟩⟩

/-- What has been renamed is an entry, and its name was not too long. -/
theorem source_of_rename (hok : (fs.rename path newPath).1 = .ok ()) :
    ∃ dir name trailing x, fs.place path = .ok ⟨dir, .name name, trailing⟩ ∧
      name.utf8ByteSize ≤ nameLimit ∧ fs.node? (dir ++ [name]) = some x := by
  unfold rename at hok
  split at hok
  · cases hok
  rename_i source hsource
  split at hok
  · cases hok
  split at hok
  rotate_left
  · cases hok
  rename_i old _ hold _
  dsimp only at hok
  split at hok
  · cases hok
  split at hok
  · cases hok
  rename_i hshort _ x hx
  split_ifs at hsource
  obtain ⟨dir, last, trailing⟩ := source
  dsimp only at hold hx
  subst hold
  exact ⟨dir, old, trailing, x, hsource, Nat.le_of_not_lt hshort, hx⟩

/-- Renaming that fails does nothing. -/
theorem rename_error (hs : fs.Sound) {e : IoError} (h : fs.rename path newPath = (.error e, fs')) :
    fs' = fs := by
  rcases rename_cases hs path newPath with hsame | ⟨hok, -⟩
  · rwa [h] at hsame
  · rw [h] at hok
    cases hok

/-! ## Writing -/

/-- The paths of directories. -/
theorem isDir_iff : fs.isDir path = true ↔ ∃ p, fs.place path = .ok p ∧
    ∀ name, p.last = .name name →
      name.utf8ByteSize ≤ nameLimit ∧ fs.node? (p.dir ++ [name]) = some .dir := by
  unfold isDir find
  cases hplace : fs.place path with
  | error e => simp [bind, Except.bind]
  | ok p =>
    simp only [bind, Except.bind, Except.ok.injEq, exists_eq_left']
    cases hlast : p.last with
    | dot => simp
    | dotDot => simp
    | name name =>
      simp only [LastPart.name.injEq, forall_eq']
      by_cases hsize : nameLimit < name.utf8ByteSize
      · simp [hsize, Nat.not_le.mpr hsize]
      · cases hx : fs.node? (p.dir ++ [name]) with
        | none => simp [hsize]
        | some x =>
          cases x with
          | dir => simp [hsize, Nat.le_of_not_lt hsize]
          | file n => cases p.trailing <;> simp [hsize]

/-- Making a directory that is there changes nothing. -/
theorem makeDirs_of_isDir (h : fs.isDir path = true) : fs.makeDirs path = (.ok (), fs) := by
  have hmake : fs.makeDir path = (.error (.os .alreadyExists), fs) := by
    obtain ⟨p, hplace, hlast⟩ := isDir_iff.mp h
    simp only [makeDir, hplace]
    cases hname : p.last with
    | dot => rfl
    | dotDot => rfl
    | name name =>
      obtain ⟨hsize, hnode⟩ := hlast name hname
      simp [Nat.not_lt.mpr hsize, hnode]
  rw [makeDirs, makeDirsWithin, hmake]
  simp [h]

end LogPipeline.FileSystem
