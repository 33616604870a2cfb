import LogPipeline.Proofs.File.Listing
import LogPipeline.Proofs.File.Operations
import LogPipeline.Proofs.File.Parent
import LogPipeline.Proofs.Rotation.FreeName

/-!
# The listing of the files moved away

What is found and removed when the files moved away are listed: the names in the directory of the
file that begin with its own and a point (`backups_eq`). Where there is one more of them than is to
be kept, the least name goes, and nothing else (`Listed.prune_one`).
-/

namespace LogPipeline

namespace FileSystem

variable {fs : FileSystem} {path : String} {dir : Location}

/-- A path whose components lead through directories to the end leads to one. -/
theorem find_dir (hne : path ≠ "") (hnul : hasNul path = false)
    (hsize : path.utf8ByteSize ≤ pathLimit) (hf : fs.follow [] (components path) = .ok dir) :
    fs.find path = .ok (dir, .dir) := by
  rcases List.eq_nil_or_concat (components path) with hnil | ⟨init, last, hlast⟩
  · have hempty : path.isEmpty = false := by simpa using hne
    rw [hnil] at hf
    obtain rfl : [] = dir := by simpa [follow] using hf
    unfold find place
    rw [if_neg (by simp [hnul]), if_neg (by simp [hempty]), if_neg (by omega), hnil]
    rfl
  · rw [List.concat_eq_append] at hlast
    unfold find
    rw [place_of_components hne hnul hsize hlast]
    rw [hlast, follow_append] at hf
    cases hi : fs.follow [] init with
    | error e => simp [hi, Except.bind] at hf
    | ok d =>
      simp only [hi, Except.bind, follow_cons, enter] at hf ⊢
      by_cases h₁ : last = "."
      · subst h₁
        obtain rfl : d = dir := by simpa [follow] using hf
        rfl
      by_cases h₂ : last = ".."
      · subst h₂
        obtain rfl : d.dropLast = dir := by simpa [follow] using hf
        rfl
      rw [lastPart_name h₁ h₂]
      rw [if_neg h₁, if_neg h₂] at hf
      by_cases hlong : nameLimit < last.utf8ByteSize
      · simp [hlong] at hf
      rw [if_neg hlong] at hf
      cases hn : fs.node? (d ++ [last]) with
      | none => simp [hn] at hf
      | some x =>
        cases x with
        | file m => simp [hn] at hf
        | dir =>
          obtain rfl : d ++ [last] = dir := by simpa [hn, follow] using hf
          simp [bind, Except.bind, hlong, hn]

end FileSystem

namespace Rotator

open FileSystem

variable {fs : FileSystem} {path name : String} {dir : Location}

/-! ## The directory of the file -/

theorem one_le_size {l : List Char} (h : l ≠ []) : 1 ≤ (String.ofList l).utf8ByteSize := by
  obtain ⟨c, l, rfl⟩ := List.exists_cons_of_ne_nil h
  have := c.utf8Size_pos
  rw [String.ofList_cons, String.utf8ByteSize_append, String.utf8ByteSize_singleton]
  omega

theorem size_join (d n : String) :
    (Path.join d n).utf8ByteSize ≤ d.utf8ByteSize + 1 + n.utf8ByteSize := by
  have hslash : ("/" : String).utf8ByteSize = 1 := rfl
  rw [Path.join]
  split_ifs <;> simp only [String.utf8ByteSize_append] <;> omega

/-- The directory of a file, and how long the paths of its entries are. -/
theorem directory_spec (h : fs.place path = .ok ⟨dir, .name name, false⟩) :
    Path.fileName? path = some name ∧ directory path ≠ "" ∧ hasNul (directory path) = false ∧
      (directory path).utf8ByteSize ≤ pathLimit ∧
      fs.follow [] (components (directory path)) = .ok dir ∧
      ∀ s, (path ++ s).utf8ByteSize ≤ pathLimit → (name ++ s).utf8ByteSize ≤ nameLimit →
        (Path.join (directory path) (name ++ s)).utf8ByteSize ≤ pathLimit := by
  obtain ⟨front, hsplit, hnul, hsize, hdir, h₁, h₂⟩ := exists_splits_of_place h
  obtain ⟨hname, d, hparent, hsteps, hd⟩ := Path.parent_splits hsplit h₁ h₂
  have hfollow : fs.follow [] (namesOf d) = .ok dir := by
    rw [← follow_filter, ← hdir, ← follow_filter fs [] (namesOf front)]
    exact congrArg _ hsteps
  have hpath : path = String.ofList front ++ name := by
    apply String.toList_injective
    rw [String.toList_append, String.toList_ofList, hsplit.chars]
  have hdirectory : directory path = if d = [] then "." else String.ofList d := by
    rw [directory, hparent]
    by_cases hnil : d = [] <;> simp [hnil]
  by_cases hnil : d = []
  · -- the file is in the working directory, which is named by a point
    subst hnil
    rw [hdirectory, if_pos rfl]
    refine ⟨hname, by decide, by decide, by decide, ?_, fun s _ hs => ?_⟩
    · rw [show components "." = ["."] by decide]
      exact hfollow
    · have := size_join "." (name ++ s)
      have hdot : ("." : String).utf8ByteSize = 1 := rfl
      simp only [nameLimit, pathLimit] at *
      omega
  · rw [hdirectory, if_neg hnil]
    refine ⟨hname, ?_, ?_, ?_, ?_, fun s hs _ => ?_⟩
    · simpa using hnil
    · have hsub : ∀ c ∈ d, c ∈ front := by
        rcases hd with ⟨-, rfl⟩ | ⟨rest, -, rfl⟩
        · exact fun c hc => hc
        · exact fun c hc => List.mem_append_left rest hc
      simp only [hasNul, String.toList_ofList, hsplit.chars, List.contains_eq_mem,
        List.mem_append, decide_eq_false_iff_not] at hnul ⊢
      exact fun hm => hnul (.inl (hsub _ hm))
    · rw [hpath, String.utf8ByteSize_append] at hsize
      rcases hd with ⟨-, rfl⟩ | ⟨rest, -, rfl⟩
      · omega
      · rw [String.ofList_append, String.utf8ByteSize_append] at hsize
        omega
    · rw [components_eq, String.toList_ofList, hfollow]
    · rcases hd with ⟨hd, rfl⟩ | ⟨rest, hrest, rfl⟩
      · obtain rfl := hd.resolve_left hnil
        rw [Path.join, if_pos (by decide), ← String.append_assoc, ← hpath]
        exact hs
      · have := size_join (String.ofList d) (name ++ s)
        have := one_le_size hrest
        rw [hpath, String.ofList_append] at hs
        simp only [String.utf8ByteSize_append] at *
        omega

/-- The path of an entry, taken apart. -/
theorem splits_join {d n : String} (hne : d ≠ "") (hwhole : '/' ∉ n.toList) (hn : n ≠ "") :
    ∃ front, Splits (Path.join d n) front n ∧ namesOf front = components d := by
  have hempty : d.isEmpty = false := by simpa using hne
  rw [Path.join, hempty, Bool.false_or, components_eq]
  split_ifs with hslash
  · obtain ⟨x, hx⟩ := List.getLast?_eq_some_iff.mp (beq_iff_eq.mp hslash)
    exact ⟨d.toList, ⟨String.toList_append, .inr ⟨x, hx⟩, hwhole, hn⟩, rfl⟩
  · refine ⟨d.toList ++ ['/'], ⟨?_, .inr ⟨_, rfl⟩, hwhole, hn⟩, ?_⟩
    · rw [String.toList_append, String.toList_append]
      rfl
    · rw [namesOf_append_slash, namesOf_nil, List.append_nil]

theorem hasNul_join {d n : String} (hd : hasNul d = false) (hn : '\x00' ∉ n.toList) :
    hasNul (Path.join d n) = false := by
  simp only [hasNul, List.contains_eq_mem, decide_eq_false_iff_not] at hd ⊢
  rw [Path.join]
  split_ifs
  · rw [String.toList_append, List.mem_append]
    exact fun hm => hm.elim hd hn
  · simp only [String.toList_append, List.mem_append]
    exact fun hm => hm.elim (fun hm => hm.elim hd (by decide)) hn

/-- The path of an entry beside the file leads there. -/
theorem place_join (h : fs.place path = .ok ⟨dir, .name name, false⟩) {s : String}
    (hs : '/' ∉ s.toList) (hnul : '\x00' ∉ s.toList)
    (hsize : (path ++ s).utf8ByteSize ≤ pathLimit) (hshort : (name ++ s).utf8ByteSize ≤ nameLimit) :
    fs.place (Path.join (directory path) (name ++ s)) = .ok ⟨dir, .name (name ++ s), false⟩ := by
  obtain ⟨-, hne, hnuldir, -, hfollow, hjoin⟩ := directory_spec h
  obtain ⟨front, hsplit, hnulpath, -, -, h₁, h₂⟩ := exists_splits_of_place h
  have happend := hsplit.append hs
  obtain ⟨front', hsplit', hnames⟩ := splits_join hne happend.whole happend.nonempty
  obtain ⟨hdot, hdots⟩ := append_ne_dots (s := s) hsplit.nonempty h₁ h₂
  refine hsplit'.place_eq (hasNul_join hnuldir ?_) (hjoin s hsize hshort)
    (by rw [hnames, hfollow]) hdot hdots
  simp only [hasNul, hsplit.chars, List.contains_eq_mem, List.mem_append,
    decide_eq_false_iff_not] at hnulpath
  rw [String.toList_append, List.mem_append]
  exact fun hm => hm.elim (fun hm => hnulpath (.inr hm)) hnul

/-! ## The listing -/

/-- Whether a name is one of a file moved away. -/
def isBackup (name n : String) : Bool := (name ++ separator).toList.isPrefixOf n.toList

theorem isBackup_suffix (name stamp : String) (i : Nat) :
    isBackup name (name ++ suffix stamp i) = true := by
  rw [isBackup, List.isPrefixOf_iff_prefix, String.toList_append, String.toList_append,
    toList_suffix]
  exact List.prefix_append_right_inj _ |>.mpr ⟨_, rfl⟩

theorem isBackup_self (name : String) : isBackup name name = false := by
  rw [isBackup, Bool.eq_false_iff, ne_eq, List.isPrefixOf_iff_prefix]
  intro h
  have := h.length_le
  rw [String.toList_append, List.length_append] at this
  have hone : separator.toList.length = 1 := rfl
  omega

/-- The listing: the names of files moved away in the directory of the file. -/
theorem backups_eq (h : fs.place path = .ok ⟨dir, .name name, false⟩) :
    backups path fs = (((fs.namesIn dir).filter (isBackup name)).mergeSort
      fun a b => a ≤ b).map (Path.join (directory path)) := by
  obtain ⟨hname, hne, hnul, hsize, hfollow, -⟩ := directory_spec h
  rw [backups, hname, list, find_dir hne hnul hsize hfollow]
  rfl

/-- Where nothing is listed nothing stands under the name of a file moved away. -/
theorem node?_of_no_backups (hs : fs.Sound) (h : fs.place path = .ok ⟨dir, .name name, false⟩)
    (hempty : backups path fs = []) {n : String} (hn : isBackup name n = true) (x : Node) :
    fs.node? (dir ++ [n]) ≠ some x := by
  intro hx
  have hmem : n ∈ (fs.namesIn dir).filter (isBackup name) :=
    List.mem_filter.mpr ⟨hs.mem_namesIn.mpr ⟨x, hx⟩, hn⟩
  rw [backups_eq h, List.map_eq_nil_iff] at hempty
  have hperm := List.mergeSort_perm ((fs.namesIn dir).filter (isBackup name)) fun a b => a ≤ b
  rw [hempty] at hperm
  rw [hperm.symm.eq_nil] at hmem
  simp at hmem

/-! ## Pruning -/

theorem pairwise_sorted (names : List String) :
    (names.mergeSort fun a b => a ≤ b).Pairwise (· ≤ ·) := by
  have hle : (names.mergeSort fun a b => a ≤ b).Pairwise fun a b => decide (a ≤ b) := by
    refine List.pairwise_mergeSort (fun a b c hab hbc => ?_) (fun a b => ?_) names
    · simpa using String.le_trans (by simpa using hab) (by simpa using hbc)
    · simpa using String.le_total a b
  simpa using hle

/-- The least of some names stands first when they are sorted. -/
theorem exists_least {names : List String} (h : names ≠ []) :
    ∃ n rest, names.mergeSort (fun a b => a ≤ b) = n :: rest ∧
      n ∈ names ∧ ∀ n' ∈ names, n ≤ n' := by
  have hperm := List.mergeSort_perm names fun a b => a ≤ b
  obtain ⟨n, rest, hsort⟩ := List.exists_cons_of_ne_nil
    (show names.mergeSort (fun a b => a ≤ b) ≠ [] from fun hnil => h (by
      rw [hnil] at hperm
      exact hperm.symm.eq_nil))
  have hle := pairwise_sorted names
  rw [hsort] at hle hperm
  refine ⟨n, rest, hsort, hperm.subset List.mem_cons_self, fun n' hn' => ?_⟩
  rcases List.mem_cons.mp (hperm.symm.subset hn') with rfl | hn'
  · exact String.le_refl _
  · exact List.rel_of_pairwise_cons hle hn'

/-- What is put behind the name of a file moved away, short enough to be found again. -/
structure Fits (path name s : String) : Prop where
  backup : isBackup name (name ++ s) = true
  slash : '/' ∉ s.toList
  nul : '\x00' ∉ s.toList
  size : (path ++ s).utf8ByteSize ≤ pathLimit
  short : (name ++ s).utf8ByteSize ≤ nameLimit

/-- The files moved away are those of some suffixes, each once. -/
structure Listed (fs : FileSystem) (path : String) (dir : Location) (name : String)
    (suffixes : List String) : Prop where
  sound : fs.Sound
  place : fs.place path = .ok ⟨dir, .name name, false⟩
  nodup : suffixes.Nodup
  fits : ∀ s ∈ suffixes, Fits path name s
  file : ∀ s ∈ suffixes, ∃ m, fs.node? (dir ++ [name ++ s]) = some (.file m)
  only : ∀ n x, isBackup name n = true → fs.node? (dir ++ [n]) = some x →
    ∃ s ∈ suffixes, n = name ++ s

variable {suffixes : List String} {keep : Nat}

theorem Listed.perm (h : Listed fs path dir name suffixes) :
    ((fs.namesIn dir).filter (isBackup name)).Perm (suffixes.map (name ++ ·)) := by
  refine (List.perm_ext_iff_of_nodup ((h.sound.nodup_namesIn dir).filter _) ?_).mpr fun n => ?_
  · exact h.nodup.map fun s s' hss => (String.append_right_inj name).mp hss
  · rw [List.mem_filter, h.sound.mem_namesIn, List.mem_map]
    constructor
    · rintro ⟨⟨x, hx⟩, hbackup⟩
      obtain ⟨s, hs, rfl⟩ := h.only n x hbackup hx
      exact ⟨s, hs, rfl⟩
    · rintro ⟨s, hs, rfl⟩
      obtain ⟨m, hm⟩ := h.file s hs
      exact ⟨⟨_, hm⟩, (h.fits s hs).backup⟩

theorem length_backups (h : fs.place path = .ok ⟨dir, .name name, false⟩) :
    (backups path fs).length = ((fs.namesIn dir).filter (isBackup name)).length := by
  rw [backups_eq h, List.length_map, (List.mergeSort_perm _ _).length_eq]

/-- Nothing is removed as long as there are not too many. -/
theorem prune_of_few (h : fs.place path = .ok ⟨dir, .name name, false⟩)
    (hfew : ((fs.namesIn dir).filter (isBackup name)).length ≤ keep) : prune path keep fs = fs := by
  rw [prune, length_backups h, Nat.sub_eq_zero_of_le hfew]
  rfl

theorem Listed.prune_few (h : Listed fs path dir name suffixes) (hfew : suffixes.length ≤ keep) :
    prune path keep fs = fs := by
  refine prune_of_few h.place ?_
  rwa [h.perm.length_eq, List.length_map]

/-- Of one too many the one of the least name is removed. -/
theorem Listed.prune_one (h : Listed fs path dir name suffixes)
    (hone : suffixes.length = keep + 1) :
    ∃ s ∈ suffixes, (∀ s' ∈ suffixes, name ++ s ≤ name ++ s') ∧
      prune path keep fs = fs.unlink (dir ++ [name ++ s]) := by
  have hperm := h.perm
  have hne : (fs.namesIn dir).filter (isBackup name) ≠ [] := by
    intro hnil
    rw [hnil] at hperm
    have := hperm.length_eq
    rw [List.length_map] at this
    simp [hone] at this
  obtain ⟨n, rest, hsort, hn, hleast⟩ := exists_least hne
  obtain ⟨s, hs, rfl⟩ := List.mem_map.mp (hperm.subset hn)
  refine ⟨s, hs, fun s' hs' => hleast _ (hperm.symm.subset (List.mem_map_of_mem hs')), ?_⟩
  have hfits := h.fits s hs
  have hplace := place_join h.place hfits.slash hfits.nul hfits.size hfits.short
  obtain ⟨m, hm⟩ := h.file s hs
  have hlength : (backups path fs).length = keep + 1 := by
    rw [length_backups h.place, hperm.length_eq, List.length_map, hone]
  have hbackups := backups_eq h.place
  rw [hsort] at hbackups
  rw [prune, hlength, Nat.add_sub_cancel_left, hbackups]
  show (fs.removeFile (Path.join (directory path) (name ++ s))).2 = _
  rw [removeFile_eq_unlink hplace hfits.short hm]

end Rotator

end LogPipeline
