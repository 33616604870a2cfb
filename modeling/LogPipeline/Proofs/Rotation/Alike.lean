import LogPipeline.Proofs.Rotation.Confinement

/-!
# The same writes to the same family

What a write does follows from the fields of the rotating file and from what is shown of its family
(`SameFamily.write`): in two file systems that show the same of it, the same is moved away, removed
and written. The numbers of files play no part in it, and neither does what stands beside the
family.
-/

namespace LogPipeline.Rotator

open FileSystem

variable {r r' : Rotator} {fs fs' fs₁ fs₁' : FileSystem} {dir : Location}
  {name new n path : String} {number number' keep : Nat} {t : Timestamp} {bytes : Bytes}
  {names : List String}

/-! ## The same changes to the same family -/

theorem SameFamily.content (h : SameFamily dir name fs fs') (hr : r.Attached fs dir name number)
    (hr' : r'.Attached fs' dir name number') : fs'.content number' = fs.content number := by
  have hfile := h name (.self name)
  rw [shown_file hr.node, shown_file hr'.node] at hfile
  simpa using hfile

theorem SameFamily.append (h : SameFamily dir name fs fs') (hr : r.Attached fs dir name number)
    (hr' : r'.Attached fs' dir name number') (bytes : Bytes) :
    SameFamily dir name (fs.append number bytes) (fs'.append number' bytes) := by
  intro n hn
  rw [shown_append hr.sound hr.node, shown_append hr'.sound hr'.node, h.content hr hr', h n hn]

/-- What is shown after a move: the file under its new name, and an empty one in its place. -/
theorem Moved.shown (hm : Moved fs fs' dir name new number) (hs : fs.Sound)
    (hn : fs.node? (dir ++ [name]) = some (.file number)) (n : String) :
    fs'.shown (dir ++ [n]) =
      if n = new then fs.shown (dir ++ [name])
      else if n = name then some (some []) else fs.shown (dir ++ [n]) := by
  have hnode := hm.node (dir ++ [n])
  simp only [List.append_cancel_left_eq, List.cons.injEq, and_true] at hnode
  split_ifs at hnode ⊢ with hnew hname
  · rw [shown_file hnode, shown_file hn, hm.content,
      if_neg (Nat.ne_of_lt (hs.numbered _ _ hn))]
  · rw [shown_file hnode, hm.content, if_pos rfl]
  · refine shown_congr hnode fun k hk => ?_
    rw [hm.content, if_neg (Nat.ne_of_lt (hs.numbered _ _ hk))]

theorem SameFamily.moved (h : SameFamily dir name fs fs') (hr : r.Attached fs dir name number)
    (hr' : r'.Attached fs' dir name number') (hm : Moved fs fs₁ dir name new number)
    (hm' : Moved fs' fs₁' dir name new number') : SameFamily dir name fs₁ fs₁' := by
  intro n hn
  rw [hm.shown hr.sound hr.node, hm'.shown hr'.sound hr'.node, h name (.self name), h n hn]

/-- Whether a file moved away can be removed depends on what is shown of it. -/
theorem SameFamily.removable_iff (h : SameFamily dir name fs fs') (hn : isBackup name n = true) :
    Removable fs' path dir n ↔ Removable fs path dir n := by
  have hshown := h n (.inr hn)
  constructor
  · rintro ⟨hsize, hshort, hfile⟩
    exact ⟨hsize, hshort, by rwa [← hshown]⟩
  · rintro ⟨hsize, hshort, hfile⟩
    exact ⟨hsize, hshort, by rwa [hshown]⟩

theorem SameFamily.removeFile (h : SameFamily dir name fs fs')
    (hplace : fs.place path = .ok ⟨dir, .name name, false⟩)
    (hplace' : fs'.place path = .ok ⟨dir, .name name, false⟩)
    (hn : isBackup name n = true) (hplain : Plain n) :
    SameFamily dir name (fs.removeFile (Path.join (directory path) n)).2
      (fs'.removeFile (Path.join (directory path) n)).2 := by
  have hiff : Removable fs' path dir n ↔ Removable fs path dir n := h.removable_iff hn
  rcases removeFile_entry hplace hn hplain with ⟨hr, -, heq⟩ | ⟨hr, heq⟩ <;>
    rcases removeFile_entry hplace' hn hplain with ⟨hr', -, heq'⟩ | ⟨hr', heq'⟩
  · rw [heq, heq']
    intro m hm
    rw [shown_unlink _ (by simp), shown_unlink _ (by simp), h m hm]
  · exact absurd (hiff.mpr hr) hr'
  · exact absurd (hiff.mp hr') hr
  · rw [heq, heq']
    exact h

theorem SameFamily.removeEntries (h : SameFamily dir name fs fs')
    (hr : r.Attached fs dir name number) (hr' : r'.Attached fs' dir name number')
    (hpath : r'.path = r.path) (hnames : ∀ n ∈ names, isBackup name n = true ∧ Plain n) :
    SameFamily dir name (removeEntries r.path names fs) (removeEntries r'.path names fs') := by
  induction names generalizing fs fs' with
  | nil => exact h
  | cons n names ih =>
    rw [List.forall_mem_cons] at hnames
    obtain ⟨⟨hn, hplain⟩, hnames⟩ := hnames
    have hone : ∀ n' ∈ [n], isBackup name n' = true ∧ Plain n' := by
      simpa using ⟨hn, hplain⟩
    have hnext := (hr.removeEntries hone).1
    have hnext' := (hr'.removeEntries hone).1
    rw [removeEntries_cons] at hnext hnext' ⊢
    rw [removeEntries_cons]
    refine ih ?_ hnext hnext' hnames
    have hplace' := hr'.place
    rw [hpath] at hplace' ⊢
    exact h.removeFile hr.place hplace' hn hplain

theorem SameFamily.prune (h : SameFamily dir name fs fs') (hr : r.Attached fs dir name number)
    (hr' : r'.Attached fs' dir name number') (hpath : r'.path = r.path) (hnamed : fs.Named)
    (keep : Nat) :
    SameFamily dir name (prune r.path keep fs) (Rotator.prune r'.path keep fs') := by
  rw [prune_eq hr.place, prune_eq hr'.place, h.listed hr.sound hr'.sound]
  exact h.removeEntries hr hr' hpath fun n hn =>
    plain_of_listed hr.sound hnamed (List.mem_of_mem_take hn)

/-- The same move, and the same pruning after it. -/
theorem SameFamily.moves_prune (h : SameFamily dir name fs fs')
    (hr : r.Attached fs dir name number) (hr' : r'.Attached fs' dir name number')
    (hrest : r' = { r with handle := r'.handle }) (hnamed : fs.Named)
    (hnamed' : fs'.Named) {m : Nat} (hfits : Fits r.path name (suffix t.stamp m))
    (hm : Moved fs fs₁ dir name (name ++ suffix t.stamp m) number)
    (hm' : Moved fs' fs₁' dir name (name ++ suffix t.stamp m) number') :
    SameFamily dir name (if r.maxBackups = 0 then fs₁ else Rotator.prune r.path r.maxBackups fs₁)
      (if r'.maxBackups = 0 then fs₁' else Rotator.prune r'.path r'.maxBackups fs₁') := by
  have hpath : r'.path = r.path := by rw [hrest]
  have hkeep : r'.maxBackups = r.maxBackups := by rw [hrest]
  have hshown := h.moved hr hr' hm hm'
  obtain ⟨hnew, hconfined⟩ := hr.moves hm hnamed hfits
  obtain ⟨hnew', -⟩ := hr'.moves hm' hnamed' (by rw [hpath]; exact hfits)
  rw [hkeep]
  split_ifs
  · exact hshown
  · exact hshown.prune hnew hnew' hpath (hconfined.named hnamed) _

theorem SameFamily.has_suffix (h : SameFamily dir name fs fs')
    (hplace : fs.place path = .ok ⟨dir, .name name, false⟩)
    (hplace' : fs'.place path = .ok ⟨dir, .name name, false⟩) (t : Timestamp) (i : Nat) :
    fs'.has (path ++ suffix t.stamp i) = fs.has (path ++ suffix t.stamp i) := by
  rw [Bool.eq_iff_iff, Rotator.has_suffix hplace, Rotator.has_suffix hplace',
    h _ (.suffix name t.stamp i)]

/-! ## The same operations -/

/-- **What a write does follows from what is shown.** Two rotating files alike in all but the number
of the open file, in file systems that show the same of their family: a write gives the same result
and leaves them alike. -/
theorem SameFamily.write (h : SameFamily dir name fs fs') (hr : r.Attached fs dir name number)
    (hr' : r'.Attached fs' dir name number') (hrest : r' = { r with handle := r'.handle })
    (hnamed : fs.Named) (hnamed' : fs'.Named) (t : Timestamp) (bytes : Bytes) :
    (r'.write t bytes fs').1 = (r.write t bytes fs).1 ∧
      (r'.write t bytes fs').2.1 =
        { (r.write t bytes fs).2.1 with handle := (r'.write t bytes fs').2.1.handle } ∧
      SameFamily dir name (r.write t bytes fs).2.2 (r'.write t bytes fs').2.2 := by
  have hpath : r'.path = r.path := by rw [hrest]
  have hdue : r'.isDue bytes.length = r.isDue bytes.length := by rw [hrest]; rfl
  have hkeep : r'.maxBackups = r.maxBackups := by rw [hrest]
  obtain ⟨m, hunused, hused, hcase⟩ := hr.write_cases t bytes
  obtain ⟨m', hunused', hused', hcase'⟩ := hr'.write_cases t bytes
  -- both searches end at the same name, the first that is not shown
  have hhas (i : Nat) :
      fs'.has (r'.path ++ suffix t.stamp i) = fs.has (r.path ++ suffix t.stamp i) := by
    have hplace' := hr'.place
    rw [hpath] at hplace' ⊢
    exact h.has_suffix hr.place hplace' t i
  obtain rfl : m = m' := by
    rcases Nat.lt_trichotomy m m' with hlt | heq | hlt
    · have := hused' m hlt
      rw [hhas, hunused] at this
      cases this
    · exact heq
    · have := hused m' hlt
      rw [← hhas, hunused'] at this
      cases this
  rw [hdue, hpath] at hcase'
  rcases hcase with ⟨hstays, hwrite⟩ | ⟨hmoves, fs₁, hmoved, hwrite⟩ <;>
    rcases hcase' with ⟨hstays', hwrite'⟩ | ⟨hmoves', fs₁', hmoved', hwrite'⟩
  · rw [hwrite, hwrite']
    refine ⟨rfl, ?_, h.append hr hr' bytes⟩
    dsimp only
    rw [hrest]
  · exact absurd hmoves' hstays
  · exact absurd hmoves hstays'
  · rw [hwrite, hwrite']
    obtain ⟨hnew, -⟩ := hr.moves_prune hmoved hnamed hmoves.2
    obtain ⟨hnew', -⟩ := hr'.moves_prune hmoved' hnamed' (by rw [hpath]; exact hmoves.2)
    have hshown := h.moves_prune hr hr' hrest hnamed hnamed' hmoves.2 hmoved hmoved'
    refine ⟨rfl, ?_, ?_⟩
    · dsimp only
      rw [hrest]
    · rw [hpath] at hnew' hshown
      exact hshown.append hnew hnew' bytes

end LogPipeline.Rotator
