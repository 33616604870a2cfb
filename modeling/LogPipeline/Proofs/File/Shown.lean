import LogPipeline.Proofs.File.Operations

/-!
# What a file system shows

To those who look at it by paths a file system is what stands at each location (`shown`): a
directory, or a file with what it holds, whatever its number is. What is read at a path that leads to
a name, and whether anything is there, depends on nothing else (`read_eq`, `has_eq`).

Names come from the components of paths, so none of them holds a slash or a NUL character (`Named`).
-/

namespace LogPipeline.FileSystem

/-- What can be seen at a location: nothing, a directory, or what a file holds. -/
def shown (fs : FileSystem) (l : Location) : Option (Option Bytes) :=
  (fs.node? l).map fun
    | .dir => none
    | .file n => some (fs.content n)

/-- The text can be a component of a path. -/
structure Plain (name : String) : Prop where
  slash : '/' ∉ name.toList
  nul : '\x00' ∉ name.toList

/-- All names can be components of paths. -/
def Named (fs : FileSystem) : Prop :=
  ∀ dir name x, fs.node? (dir ++ [name]) = some x → Plain name

variable {fs fs' : FileSystem} {path name : String} {dir l m : Location} {number : Nat}
  {bytes : Bytes}

/-! ## What operations change -/

theorem shown_file (h : fs.node? l = some (.file number)) :
    fs.shown l = some (some (fs.content number)) := by
  rw [shown, h]
  rfl

theorem shown_congr (hnode : fs'.node? l = fs.node? l)
    (hcontent : ∀ n, fs.node? l = some (.file n) → fs'.content n = fs.content n) :
    fs'.shown l = fs.shown l := by
  rw [shown, shown, hnode]
  cases hx : fs.node? l with
  | none => rfl
  | some x =>
    cases x with
    | dir => rfl
    | file n => exact congrArg (fun bytes => some (some bytes)) (hcontent n hx)

theorem shown_append (hs : fs.Sound) (h : fs.node? l = some (.file number)) (bytes : Bytes)
    (m : Location) : (fs.append number bytes).shown m =
      if m = l then some (some (fs.content number ++ bytes)) else fs.shown m := by
  split_ifs with hm
  · subst hm
    rw [shown_file ((node?_append fs number bytes m).trans h), content_append, if_pos rfl]
  · refine shown_congr rfl fun n hn => ?_
    rw [content_append, if_neg]
    rintro rfl
    exact hm (hs.unshared m l _ hn h)

theorem shown_newFile (hs : fs.Sound) (h : fs.node? l = none) (m : Location) :
    (fs.newFile l).shown m = if m = l then some (some []) else fs.shown m := by
  split_ifs with hm
  · subst hm
    have hnode : (fs.newFile m).node? m = some (.file fs.next) := by
      rw [node?_newFile, h, if_pos rfl]
      rfl
    rw [shown_file hnode, content_newFile, if_pos rfl]
  · refine shown_congr (by rw [node?_newFile, if_neg hm, Option.or_none]) fun n hn => ?_
    rw [content_newFile, if_neg (Nat.ne_of_gt (hs.numbered m n hn))]

theorem shown_unlink (l : Location) (hm : m ≠ []) :
    (fs.unlink l).shown m = if m = l then none else fs.shown m := by
  rw [shown, node?_unlink _ _ _ hm]
  split_ifs <;> rfl

/-! ## What paths find -/

theorem has_eq (h : fs.place path = .ok ⟨dir, .name name, false⟩) :
    fs.has path = true ↔ name.utf8ByteSize ≤ nameLimit ∧ (fs.shown (dir ++ [name])).isSome := by
  rw [has_iff h, shown, Option.isSome_map, Option.isSome_iff_exists]

/-- A file that is there is opened as it is. -/
theorem openAppend_file (h : fs.place path = .ok ⟨dir, .name name, false⟩)
    (hsize : name.utf8ByteSize ≤ nameLimit) (hn : fs.node? (dir ++ [name]) = some (.file number)) :
    fs.openAppend path = (.ok number, fs) := by
  simp only [openAppend, h, if_neg (Nat.not_lt.mpr hsize), hn]
  rfl

/-- Opening a file shows an empty one where nothing was, and changes nothing else that can be
seen. -/
theorem shown_openAppend (hs : fs.Sound) (h : fs.place path = .ok ⟨dir, .name name, false⟩)
    (hopen : fs.openAppend path = (.ok number, fs')) (m : Location) :
    fs'.shown m = if m = dir ++ [name] then (fs.shown m).or (some (some [])) else fs.shown m := by
  obtain ⟨dir', name', hplace, -, hcase⟩ := openAppend_ok hopen
  obtain ⟨rfl, rfl⟩ : dir = dir' ∧ name = name' := by simpa [h] using hplace
  rcases hcase with ⟨hfile, rfl⟩ | ⟨hfree, -, rfl⟩
  · split_ifs with hm
    · subst hm
      rw [shown_file hfile]
      rfl
    · rfl
  · rw [shown_newFile hs hfree]
    split_ifs with hm
    · subst hm
      rw [shown, hfree]
      rfl
    · rfl

/-! ## Names -/

/-- The components of a path are pieces of it without slashes. -/
theorem mem_namesOf {chars : List Char} (h : name ∈ namesOf chars) :
    '/' ∉ name.toList ∧ ∀ c ∈ name.toList, c ∈ chars := by
  induction hn : chars.length using Nat.strongRecOn generalizing chars with
  | ind n ih =>
  by_cases hslash : '/' ∈ chars
  · obtain ⟨before, after, rfl⟩ := List.append_of_mem hslash
    rw [namesOf_append_slash, List.mem_append] at h
    rw [List.length_append, List.length_cons] at hn
    rcases h with h | h
    · obtain ⟨hwhole, hsub⟩ := ih before.length (by omega) h rfl
      exact ⟨hwhole, fun c hc => List.mem_append_left _ (hsub c hc)⟩
    · obtain ⟨hwhole, hsub⟩ := ih after.length (by omega) h rfl
      exact ⟨hwhole, fun c hc => List.mem_append_right _ (List.mem_cons_of_mem _ (hsub c hc))⟩
  · by_cases hnil : chars = []
    · subst hnil
      simp at h
    · rw [namesOf_name hnil hslash, List.mem_singleton] at h
      rw [h, String.toList_ofList]
      exact ⟨hslash, fun _ hc => hc⟩

theorem plain_of_place {p : Place} (h : fs.place path = .ok p) (hlast : p.last = .name name) :
    Plain name := by
  unfold place at h
  split_ifs at h with hnul
  cases hf : fs.follow [] (components path).dropLast with
  | error e => simp [hf] at h
  | ok d =>
    simp only [hf, Except.ok.injEq] at h
    subst h
    have hmem : name ∈ components path := by
      dsimp only at hlast
      split at hlast
      · cases hlast
      · cases hlast
      · cases hlast
      · rename_i last _ _ hget
        cases hlast
        exact List.mem_of_getLast? hget
    obtain ⟨hslash, hsub⟩ := mem_namesOf (by rwa [components_eq] at hmem)
    refine ⟨hslash, fun hm => hnul ?_⟩
    rw [hasNul, List.contains_iff_mem]
    exact hsub _ hm

theorem Named.empty : FileSystem.empty.Named := by
  intro dir name x hx
  rw [node?_of_ne_nil (by simp)] at hx
  cases hx

theorem Named.of_old (h : fs.Named)
    (hold : ∀ dir n x, fs'.node? (dir ++ [n]) = some x →
      Plain n ∨ ∃ y, fs.node? (dir ++ [n]) = some y) : fs'.Named := by
  intro dir n x hx
  rcases hold dir n x hx with hplain | ⟨y, hy⟩
  · exact hplain
  · exact h dir n y hy

theorem Named.unlink (h : fs.Named) (l : Location) : (fs.unlink l).Named := by
  refine h.of_old fun dir n x hx => .inr ?_
  rw [node?_unlink _ _ _ (by simp)] at hx
  split_ifs at hx
  exact ⟨x, hx⟩

/-- A new name, of a directory or of a file. -/
theorem Named.link (h : fs.Named) (hplain : Plain name) (x : Node) :
    (fs.link (dir ++ [name]) x).Named := by
  refine h.of_old fun d n y hy => ?_
  rw [node?_link] at hy
  rcases Option.or_eq_some_iff.mp hy with hy | ⟨-, hy⟩
  · exact .inr ⟨y, hy⟩
  · split_ifs at hy with heq
    obtain rfl : n = name := by simpa using (List.append_inj' heq rfl).2
    exact .inl hplain

theorem Named.openAppend (h : fs.Named) (path : String) : (fs.openAppend path).2.Named := by
  cases hopen : fs.openAppend path with
  | mk result fs' =>
  cases result with
  | error e =>
    rw [openAppend_error hopen]
    exact h
  | ok number =>
    obtain ⟨dir, name, hplace, -, ⟨-, rfl⟩ | ⟨-, -, rfl⟩⟩ := openAppend_ok hopen
    · exact h
    · exact h.link (plain_of_place hplace rfl) _

theorem Named.makeDir (h : fs.Named) (path : String) : (fs.makeDir path).2.Named := by
  unfold FileSystem.makeDir
  split
  · exact h
  · rename_i p hplace
    split
    · exact h
    · exact h
    · rename_i name hlast
      split
      · exact h
      · split
        · exact h
        · exact h.link (plain_of_place hplace hlast) _

theorem Named.makeDirsWithin (h : fs.Named) (fuel : Nat) (path : String) :
    (fs.makeDirsWithin fuel path).2.Named :=
  makeDirsWithin_keeps (fun _ path h => h.makeDir path) fuel path h

end LogPipeline.FileSystem
