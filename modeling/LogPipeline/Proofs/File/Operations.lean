import LogPipeline.Proofs.File.Path
import Mathlib.Tactic.Common

/-!
# What the operations on files do

Opening, renaming and removing a file whose path leads to a name, and making directories: what the
file system is afterwards, and that it is sound again.
-/

namespace LogPipeline.FileSystem

variable {fs fs' : FileSystem} {path : String} {dir : Location} {name : String}

/-! ## Opening -/

/-- Opening succeeds exactly on a path to a name that is not too long and no directory's; a file
that is missing is made. -/
theorem openAppend_ok {number : Nat} (h : fs.openAppend path = (.ok number, fs')) :
    ∃ dir name, fs.place path = .ok ⟨dir, .name name, false⟩ ∧ name.utf8ByteSize ≤ nameLimit ∧
      (fs.node? (dir ++ [name]) = some (.file number) ∧ fs' = fs ∨
        fs.node? (dir ++ [name]) = none ∧ number = fs.next ∧ fs' = fs.newFile (dir ++ [name])) := by
  unfold openAppend at h
  cases hp : fs.place path with
  | error e => simp [hp] at h
  | ok p =>
    obtain ⟨dir, last, trailing⟩ := p
    simp only [hp] at h
    cases last with
    | dot => simp at h
    | dotDot => simp at h
    | name name =>
      simp only at h
      split_ifs at h with htrailing hsize
      · simp at h
      · simp at h
      · obtain rfl : trailing = false := by simpa using htrailing
        refine ⟨dir, name, rfl, Nat.le_of_not_lt hsize, ?_⟩
        cases hn : fs.node? (dir ++ [name]) with
        | none =>
          simp only [hn, Prod.mk.injEq, Except.ok.injEq] at h
          exact .inr ⟨rfl, h.1.symm, h.2.symm⟩
        | some x =>
          cases x with
          | dir => simp [hn] at h
          | file k =>
            simp only [hn, Prod.mk.injEq, Except.ok.injEq] at h
            exact .inl ⟨by rw [h.1], h.2.symm⟩

theorem openAppend_error {e : IoError} (h : fs.openAppend path = (.error e, fs')) : fs' = fs := by
  unfold openAppend at h
  cases hp : fs.place path with
  | error e' =>
    simp only [hp, Prod.mk.injEq] at h
    exact h.2.symm
  | ok p =>
    simp only [hp] at h
    split at h
    · exact (Prod.mk.inj h).2.symm
    · exact (Prod.mk.inj h).2.symm
    · split_ifs at h
      · exact (Prod.mk.inj h).2.symm
      · exact (Prod.mk.inj h).2.symm
      · split at h
        · exact (Prod.mk.inj h).2.symm
        · exact absurd (Prod.mk.inj h).1 (by simp)
        · exact absurd (Prod.mk.inj h).1 (by simp)

theorem openAppend_new (h : fs.place path = .ok ⟨dir, .name name, false⟩)
    (hsize : name.utf8ByteSize ≤ nameLimit) (hn : fs.node? (dir ++ [name]) = none) :
    fs.openAppend path = (.ok fs.next, fs.newFile (dir ++ [name])) := by
  simp only [openAppend, h, if_neg (Nat.not_lt.mpr hsize), hn]
  rfl

/-- A path that has been opened leads to the file, then and as long as no name is lost. -/
theorem find_of_openAppend {number : Nat} (h : fs.openAppend path = (.ok number, fs')) :
    ∃ l, ∀ fs'' : FileSystem, (∀ m x, fs'.node? m = some x → fs''.node? m = some x) →
      fs''.find path = .ok (l, .file number) ∧ fs''.node? l = some (.file number) := by
  obtain ⟨dir, name, hplace, hsize, hcase⟩ := openAppend_ok h
  have hopened : (∀ m x, fs.node? m = some x → fs'.node? m = some x) ∧
      fs'.node? (dir ++ [name]) = some (.file number) := by
    rcases hcase with ⟨hfile, rfl⟩ | ⟨hfree, rfl, rfl⟩
    · exact ⟨fun _ _ hx => hx, hfile⟩
    · refine ⟨fun m x hx => ?_, ?_⟩
      · rw [node?_newFile, hx]
        rfl
      · rw [node?_newFile, hfree, if_pos rfl]
        rfl
  refine ⟨dir ++ [name], fun fs'' hkept => ?_⟩
  have hnode := hkept _ _ hopened.2
  have hplace' : fs''.place path = .ok ⟨dir, .name name, false⟩ :=
    place_mono (fun m hm => hkept m _ (hopened.1 m _ hm)) hplace
  exact ⟨find_name hplace' hsize hnode, hnode⟩

/-! ## Renaming -/

theorem isBelow_beside (dir : Location) (a b : String) :
    isBelow (dir ++ [a]) (dir ++ [b]) = false := by
  by_cases h : a = b
  · subst h
    simp [isBelow]
  · have : ¬ (dir ++ [a]).isPrefixOf (dir ++ [b]) := by
      rw [List.isPrefixOf_iff_prefix, List.prefix_append_right_inj]
      simpa using h
    simp [isBelow, this]

/-- An entry is given a free name in its directory. -/
theorem rename_eq_relocate (h : fs.place path = .ok ⟨dir, .name name, false⟩) {newPath new : String}
    (h' : fs.place newPath = .ok ⟨dir, .name new, false⟩) (hsize : name.utf8ByteSize ≤ nameLimit)
    (hsize' : new.utf8ByteSize ≤ nameLimit) {x : Node} (hn : fs.node? (dir ++ [name]) = some x)
    (hfree : fs.node? (dir ++ [new]) = none) :
    fs.rename path newPath = (.ok (), fs.relocate (dir ++ [name]) (dir ++ [new])) := by
  have hnul : hasNul newPath = false := (exists_splits_of_place h').choose_spec.2.1
  have hne : (dir ++ [name] == dir ++ [new]) = false := by
    rw [beq_eq_false_iff_ne]
    intro heq
    rw [heq, hfree] at hn
    simp at hn
  simp only [rename, hnul, h, h', Bool.false_eq_true, if_false, hn, Bool.or_self, Bool.and_false,
    Nat.not_lt.mpr hsize, Nat.not_lt.mpr hsize', hne, isBelow_beside, hfree]
  rfl

/-- Of a name put behind that of an entry, renaming the entry to it fails only if the new name or
path is too long; otherwise it leads to a place beside the entry. -/
theorem place_of_rename (h : fs.place path = .ok ⟨dir, .name name, false⟩) {s : String}
    (hslash : '/' ∉ s.toList) (hnul : '\x00' ∉ s.toList) {x : Node}
    (hn : fs.node? (dir ++ [name]) = some x)
    (hok : (fs.rename path (path ++ s)).1 = .ok ()) :
    fs.place (path ++ s) = .ok ⟨dir, .name (name ++ s), false⟩ ∧
      (name ++ s).utf8ByteSize ≤ nameLimit := by
  have hplace : fs.place (path ++ s) = .ok ⟨dir, .name (name ++ s), false⟩ := by
    refine place_append h hslash hnul ?_
    unfold rename at hok
    split_ifs at hok
    cases hp : fs.place (path ++ s) with
    | error e => simp [h, hp] at hok
    | ok p => exact size_le_of_place hp
  refine ⟨hplace, ?_⟩
  have hnul : hasNul (path ++ s) = false := (exists_splits_of_place hplace).choose_spec.2.1
  by_contra hlong
  simp only [rename, hnul, h, hplace, Bool.false_eq_true, if_false, hn,
    if_pos (Nat.lt_of_not_le hlong)] at hok
  split_ifs at hok

/-! ## Removing -/

theorem removeFile_eq_unlink (h : fs.place path = .ok ⟨dir, .name name, false⟩)
    (hsize : name.utf8ByteSize ≤ nameLimit) {number : Nat}
    (hn : fs.node? (dir ++ [name]) = some (.file number)) :
    fs.removeFile path = (.ok (), fs.unlink (dir ++ [name])) := by
  simp only [removeFile, h, if_neg (Nat.not_lt.mpr hsize), hn]
  rfl

/-- What has been removed is a file, and its name is all that is lost. -/
theorem removeFile_ok (h : (fs.removeFile path).1 = .ok ()) :
    ∃ dir name number, fs.place path = .ok ⟨dir, .name name, false⟩ ∧
      fs.node? (dir ++ [name]) = some (.file number) ∧
      (fs.removeFile path).2 = fs.unlink (dir ++ [name]) := by
  unfold removeFile at h ⊢
  cases hplace : fs.place path with
  | error e => simp [hplace] at h
  | ok p =>
    obtain ⟨dir, last, trailing⟩ := p
    cases last with
    | dot | dotDot => simp [hplace] at h
    | name name =>
      by_cases hlong : nameLimit < name.utf8ByteSize
      · simp [hplace, hlong] at h
      cases hn : fs.node? (dir ++ [name]) with
      | none => simp [hplace, hlong, hn] at h
      | some x =>
        cases x with
        | dir => simp [hplace, hlong, hn] at h
        | file number =>
          cases trailing with
          | true => simp [hplace, hlong, hn] at h
          | false => exact ⟨dir, name, number, rfl, hn, by simp [hlong, hn]⟩

theorem Sound.unlink_file (hs : fs.Sound) {l : Location} {number : Nat}
    (hn : fs.node? l = some (.file number)) : (fs.unlink l).Sound :=
  hs.unlink fun _ => hs.node?_below hn (by simp)

/-! ## Making directories -/

/-- What has been made is directories, and all that was there before still is. -/
structure Grown (fs fs' : FileSystem) : Prop where
  sound : fs'.Sound
  kept : ∀ l x, fs.node? l = some x → fs'.node? l = some x
  files : ∀ l n, fs'.node? l = some (.file n) → fs.node? l = some (.file n)
  content : ∀ n, fs'.content n = fs.content n
  next : fs'.next = fs.next

theorem Grown.refl (hs : fs.Sound) : Grown fs fs :=
  ⟨hs, fun _ _ h => h, fun _ _ h => h, fun _ => rfl, rfl⟩

theorem Grown.trans {fs'' : FileSystem} (h : Grown fs fs') (h' : Grown fs' fs'') : Grown fs fs'' where
  sound := h'.sound
  kept l x hx := h'.kept l x (h.kept l x hx)
  files l n hn := h.files l n (h'.files l n hn)
  content n := (h'.content n).trans (h.content n)
  next := h'.next.trans h.next

theorem place_dir (hs : fs.Sound) {p : Place} (h : fs.place path = .ok p) :
    fs.node? p.dir = some .dir := by
  unfold place at h
  split_ifs at h
  cases hf : fs.follow [] (components path).dropLast with
  | error e => simp [hf] at h
  | ok d =>
    simp only [hf, Except.ok.injEq] at h
    rw [← h]
    exact hs.follow_dir rfl hf

theorem grown_makeDir (hs : fs.Sound) (path : String) : Grown fs (fs.makeDir path).2 := by
  unfold makeDir
  cases hp : fs.place path with
  | error e => exact .refl hs
  | ok p =>
    obtain ⟨dir, last, trailing⟩ := p
    cases last with
    | dot => exact .refl hs
    | dotDot => exact .refl hs
    | name name =>
      dsimp only
      split_ifs
      · exact .refl hs
      · cases hn : fs.node? (dir ++ [name]) with
        | some x => exact .refl hs
        | none =>
          have hdir : fs.node? (dir ++ [name]).dropLast = some .dir := by
            rw [List.dropLast_concat]
            exact place_dir hs hp
          refine ⟨hs.link_dir (by simp) hn hdir, ?_, ?_, fun _ => rfl, rfl⟩
          · intro l x hx
            rw [node?_link, hx]
            rfl
          · intro l n hl
            rw [node?_link] at hl
            rcases Option.or_eq_some_iff.mp hl with hl | ⟨_, hl⟩
            · exact hl
            · split_ifs at hl
              simp at hl

/-- What making one directory keeps, making all that are missing keeps. -/
theorem makeDirsWithin_keeps {P : FileSystem → Prop}
    (hmake : ∀ fs path, P fs → P (FileSystem.makeDir fs path).2) (fuel : Nat) (path : String)
    (h : P fs) : P (fs.makeDirsWithin fuel path).2 := by
  induction fuel generalizing fs path with
  | zero => exact h
  | succ fuel ih =>
    have hmade := hmake fs path h
    rw [makeDirsWithin]
    split_ifs
    · exact h
    · split
      · rename_i hm
        rwa [hm] at hmade
      · rename_i fs₁ hm
        rw [hm] at hmade
        have hup := ih ((Path.parent? path).getD "") hmade
        split
        · rename_i hu
          rwa [hu] at hup
        · rename_i fs₂ hu
          rw [hu] at hup
          have hagain := hmake fs₂ path hup
          split
          · rename_i ha
            rwa [ha] at hagain
          · rename_i ha
            rw [ha] at hagain
            split_ifs <;> exact hagain
      · rename_i hm
        rw [hm] at hmade
        split_ifs <;> exact hmade

theorem grown_makeDirsWithin (fuel : Nat) (hs : fs.Sound) (path : String) :
    Grown fs (fs.makeDirsWithin fuel path).2 :=
  makeDirsWithin_keeps (fun _ path h => h.trans (grown_makeDir h.sound path)) fuel path (.refl hs)

theorem grown_makeDirs (hs : fs.Sound) (path : String) : Grown fs (fs.makeDirs path).2 :=
  grown_makeDirsWithin _ hs path

/-- All that was there still is, and no file was written to. -/
structure Keeps (fs fs' : FileSystem) : Prop where
  kept : ∀ l x, fs.node? l = some x → fs'.node? l = some x
  content : ∀ n, fs'.content n = fs.content n

theorem Keeps.refl (fs : FileSystem) : Keeps fs fs := ⟨fun _ _ h => h, fun _ => rfl⟩

theorem Keeps.trans {fs'' : FileSystem} (h : Keeps fs fs') (h' : Keeps fs' fs'') :
    Keeps fs fs'' where
  kept l x hx := h'.kept l x (h.kept l x hx)
  content n := (h'.content n).trans (h.content n)

/-- Making a directory keeps what is there, whatever the names were before. -/
theorem keeps_makeDir (fs : FileSystem) (path : String) : Keeps fs (fs.makeDir path).2 := by
  unfold makeDir
  split
  · exact .refl fs
  · split
    · exact .refl fs
    · exact .refl fs
    · split
      · exact .refl fs
      · split
        · exact .refl fs
        · refine ⟨fun l x hx => ?_, fun _ => rfl⟩
          rw [node?_link, hx]
          rfl

theorem keeps_makeDirs (fs : FileSystem) (path : String) : Keeps fs (fs.makeDirs path).2 :=
  makeDirsWithin_keeps (fun fs path h => h.trans (keeps_makeDir fs path)) _ path (.refl fs)

/-- What is found at a path is found there as long as all that was there still is. -/
theorem Keeps.find (h : Keeps fs fs') {p : Location × Node} (hp : fs.find path = .ok p) :
    fs'.find path = .ok p := by
  unfold FileSystem.find at hp ⊢
  cases hplace : fs.place path with
  | error e => simp [hplace, bind, Except.bind] at hp
  | ok place =>
    have hplace' := place_mono (fun l hl => h.kept l .dir hl) hplace
    rw [hplace] at hp
    rw [hplace']
    simp only [bind, Except.bind] at hp ⊢
    cases hlast : place.last with
    | dot => simpa only [hlast] using hp
    | dotDot => simpa only [hlast] using hp
    | name name =>
      simp only [hlast] at hp ⊢
      by_cases hlong : nameLimit < name.utf8ByteSize
      · simp [hlong] at hp
      · rw [if_neg hlong] at hp ⊢
        cases hx : fs.node? (place.dir ++ [name]) with
        | none => simp [hx] at hp
        | some x => simpa only [h.kept _ x hx, hx] using hp

/-- A file that can be read reads the same as long as all is kept. -/
theorem Keeps.read (h : Keeps fs fs') {bytes : Bytes} (hread : fs.read path = .ok bytes) :
    fs'.read path = .ok bytes := by
  unfold FileSystem.read at hread ⊢
  cases hfind : fs.find path with
  | error e => simp [hfind] at hread
  | ok p =>
    rw [hfind] at hread
    rw [h.find hfind]
    obtain ⟨l, x⟩ := p
    cases x with
    | dir => cases hread
    | file n => simpa only [h.content] using hread

/-! ## Contents by location -/

/-- What the file at a location holds; nothing if there is no file. -/
def contentAt (fs : FileSystem) (l : Location) : Bytes :=
  match fs.node? l with
  | some (.file n) => fs.content n
  | _ => []

theorem contentAt_file {l : Location} {n : Nat} (h : fs.node? l = some (.file n)) :
    fs.contentAt l = fs.content n := by
  rw [contentAt, h]

/-- Octets put behind a file are found where the file stands, and nowhere else. -/
theorem contentAt_append (hs : fs.Sound) {l : Location} {n : Nat}
    (h : fs.node? l = some (.file n)) (bytes : Bytes) (m : Location) :
    (fs.append n bytes).contentAt m = fs.contentAt m ++ if l = m then bytes else [] := by
  by_cases hm : l = m
  · subst hm
    have hafter : (fs.append n bytes).node? l = some (.file n) := h
    rw [contentAt_file hafter, contentAt_file h, content_append, if_pos rfl, if_pos rfl]
  · rw [if_neg hm, List.append_nil, contentAt, contentAt, node?_append]
    split
    · rename_i k hk
      rw [content_append, if_neg]
      rintro rfl
      exact hm (hs.unshared l m n h hk)
    · rfl

/-- Opening loses no name and changes no content, and a file that it makes is empty. -/
theorem openAppend_grows (hs : fs.Sound) (path : String) :
    (fs.openAppend path).2.Sound ∧
      (∀ l x, fs.node? l = some x → (fs.openAppend path).2.node? l = some x) ∧
      ∀ l, (fs.openAppend path).2.contentAt l = fs.contentAt l := by
  cases h : fs.openAppend path with
  | mk result fs' =>
    cases result with
    | error e =>
      obtain rfl : fs' = fs := openAppend_error h
      exact ⟨hs, fun _ _ hx => hx, fun _ => rfl⟩
    | ok number =>
      obtain ⟨dir, name, hplace, -, ⟨-, rfl⟩ | ⟨hfree, -, rfl⟩⟩ := openAppend_ok h
      · exact ⟨hs, fun _ _ hx => hx, fun _ => rfl⟩
      · have hdir : fs.node? (dir ++ [name]).dropLast = some .dir := by
          rw [List.dropLast_concat]
          exact place_dir hs hplace
        refine ⟨hs.newFile (by simp) hfree hdir, fun l x hx => ?_, fun l => ?_⟩
        · rw [node?_newFile, hx]
          rfl
        · -- the number of the new file is that of no other
          rw [contentAt, contentAt, node?_newFile]
          cases hl : fs.node? l with
          | none =>
            rw [Option.none_or]
            split_ifs
            · exact (content_newFile _ _ _).trans (if_pos rfl)
            · rfl
          | some x =>
            cases x with
            | dir => rfl
            | file n =>
              have hn := hs.numbered l n hl
              exact (content_newFile _ _ _).trans (if_neg (Nat.ne_of_gt hn))

end LogPipeline.FileSystem
