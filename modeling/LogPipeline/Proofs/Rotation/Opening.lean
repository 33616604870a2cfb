import LogPipeline.Proofs.Rotation.Alike

/-!
# Opening beside others

Opening a rotating file touches nothing but its family, once the directory is there
(`confined_openAppend`), and leaves the other files in the directory ready for their next write
(`Settled.create`). What is opened, and what it holds, follows from what is shown of the family
(`SameFamily.openAppend`).
-/

namespace LogPipeline.Rotator

open FileSystem

variable {p q r : Rotator} {fs fs' fs₀ fs₁ fs₁' : FileSystem} {dir : Location}
  {name a b path path' : String} {number number' maxSize maxBackups maxSize' maxBackups' : Nat}

/-! ## The directory -/

theorem named_makeHome (h : fs.Named) (path : String) : (makeHome path fs).2.Named := by
  unfold Rotator.makeHome
  dsimp only
  split_ifs
  · exact h
  · exact h.makeDirsWithin _ _

/-- Opening makes no directory. -/
theorem dir_openAppend_iff (h : fs.openAppend path = (.ok number, fs')) (l : Location) :
    fs'.node? l = some .dir ↔ fs.node? l = some .dir := by
  obtain ⟨dir, name, -, -, ⟨-, rfl⟩ | ⟨hfree, -, rfl⟩⟩ := openAppend_ok h
  · rfl
  · rw [node?_newFile]
    by_cases hl : l = dir ++ [name]
    · subst hl
      simp [hfree]
    · simp [hl]

/-- The same is opened where the same is shown. -/
theorem SameFamily.openAppend (h : SameFamily dir name fs fs') (hs : fs.Sound) (hs' : fs'.Sound)
    (hplace : fs.place path = .ok ⟨dir, .name name, false⟩)
    (hplace' : fs'.place path = .ok ⟨dir, .name name, false⟩)
    (hopen' : fs'.openAppend path = (.ok number', fs₁')) :
    ∃ number fs₁, fs.openAppend path = (.ok number, fs₁) ∧ SameFamily dir name fs₁ fs₁' := by
  have hopens : fs.Opens path := by
    obtain ⟨dir', name', hplace'', hshort, hnode⟩ := opens_iff.mp ⟨number', by rw [hopen']⟩
    obtain ⟨rfl, rfl⟩ : dir = dir' ∧ name = name' := by simpa [hplace'] using hplace''
    refine opens_iff.mpr ⟨dir, name, hplace, hshort, fun hdir => hnode ?_⟩
    have hshown := h name (.self name)
    rw [shown, shown, hdir, Option.map_some] at hshown
    cases hx : fs'.node? (dir ++ [name]) with
    | none => simp [hx] at hshown
    | some x =>
      cases x with
      | dir => rfl
      | file k => simp [hx] at hshown
  obtain ⟨number, hnumber⟩ := hopens
  have hopen : fs.openAppend path = (.ok number, (fs.openAppend path).2) := Prod.ext hnumber rfl
  refine ⟨number, _, hopen, fun n hn => ?_⟩
  rw [shown_openAppend hs hplace hopen, shown_openAppend hs' hplace' hopen', h n hn]

/-! ## The rotating file -/

theorem named_create (hnamed : fs₀.Named)
    (h : create path maxSize maxBackups fs₀ = (.ok r, fs)) : fs.Named := by
  obtain ⟨fs₁, number, hhome, hopen, -⟩ := create_iff.mp h
  have hmade := named_makeHome hnamed path
  rw [hhome] at hmade
  have hopened := hmade.openAppend path
  rwa [hopen] at hopened

theorem dirs_create (hs : fs₀.Sound) (h : create path maxSize maxBackups fs₀ = (.ok r, fs))
    (l : Location) (hl : fs₀.node? l = some .dir) : fs.node? l = some .dir := by
  obtain ⟨fs₁, number, hhome, hopen, -⟩ := create_iff.mp h
  have hgrown := grown_makeHome hs path
  rw [hhome] at hgrown
  exact (dir_openAppend_iff hopen l).mpr (hgrown.kept l _ hl)

/-- A file is ready for its first write as soon as it is open. -/
theorem settled_create (hs : fs₀.Sound) (hnamed : fs₀.Named)
    (h : create path maxSize maxBackups fs₀ = (.ok r, fs))
    (hplace : fs.place path = .ok ⟨dir, .name name, false⟩) : Settled r fs dir name := by
  obtain ⟨dir', name', number, hr, rfl, -, -⟩ := create_ok hs h
  obtain ⟨rfl, rfl⟩ : dir' = dir ∧ name' = name := by simpa [hplace, eq_comm] using hr.place
  exact ⟨hr.sound, named_create hnamed h, hr.place, fun _ => ⟨number, hr⟩⟩

/-- A file stays ready while another is opened under another name. -/
theorem Settled.create (h : Settled p fs₀ dir a)
    (hq : create path maxSize maxBackups fs₀ = (.ok q, fs))
    (hplace : fs.place path = .ok ⟨dir, .name b, false⟩) (hne : a ≠ b) : Settled p fs dir a := by
  obtain ⟨dir', name', number, hr, rfl, hkept, -⟩ := create_ok h.sound hq
  obtain ⟨rfl, rfl⟩ : dir' = dir ∧ name' = b := by simpa [hplace, eq_comm] using hr.place
  refine h.kept hr.sound (named_create h.named hq) (dirs_create h.sound hq) fun k hk => ?_
  obtain ⟨hnode, hcontent⟩ := hkept (dir' ++ [a]) (.file k) (by simpa using hne) hk
  exact ⟨hnode, hcontent k rfl⟩

end LogPipeline.Rotator
