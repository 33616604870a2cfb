import LogPipeline.Proofs.Rotation.Backups
import LogPipeline.Proofs.Rotation.History
import LogPipeline.Proofs.Rotation.Tags

/-!
# A rotation with pruning

What a write that is due does where only some of the files moved away are kept. `Trimmed` says that
those that are there are the last ones, each with the name that its tag gives it; from there the
file is moved to a free name, and if that makes one too many, the least name is removed
(`Trimmed.rotates`).
-/

namespace LogPipeline.Rotator

open FileSystem

variable {fs fs' : FileSystem} {path name : String} {dir : Location} {number keep : Nat}
  {s : History} {c : Call} {m : Move}

/-! ## What is kept -/

/-- The moves with their tags. -/
def tagged (moves : List Move) : List (Move × Tag) := moves.zip (tags (moves.map (·.second)))

@[simp] theorem length_tagged (moves : List Move) : (tagged moves).length = moves.length := by
  simp [tagged]

theorem tagged_concat (moves : List Move) (m : Move) : tagged (moves ++ [m]) =
    tagged moves ++ [(m, ⟨m.second, (moves.map (·.second)).count m.second⟩)] := by
  rw [tagged, List.map_append, List.map_singleton, tags_concat, List.zip_append (by simp)]
  rfl

theorem map_fst_tagged (moves : List Move) : (tagged moves).map (·.1) = moves := by
  rw [tagged, List.map_fst_zip (by simp)]

theorem map_snd_tagged (moves : List Move) :
    (tagged moves).map (·.2) = tags (moves.map (·.second)) := by
  rw [tagged, List.map_snd_zip (by simp)]

/-- The moves whose files are to be kept, with their tags. -/
def kept (keep : Nat) (moves : List Move) : List (Move × Tag) :=
  (tagged moves).drop (moves.length - keep)

/-- The last move is one of them. -/
theorem kept_concat (h : 0 < keep) (moves : List Move) (m : Move) : kept keep (moves ++ [m]) =
    (tagged moves).drop (moves.length + 1 - keep) ++
      [(m, ⟨m.second, (moves.map (·.second)).count m.second⟩)] := by
  rw [kept, tagged_concat, List.length_append, List.length_singleton,
    List.drop_append_of_le_length (by rw [length_tagged]; omega)]

/-- What orderly moves keep. -/
structure Trimmed (path : String) (dir : Location) (name : String) (number keep : Nat)
    (s : History) : Prop where
  opened : s.rotator.path = path
  attached : s.rotator.Attached s.files dir name number
  keeps : s.rotator.maxBackups = keep
  sorted : (s.moves.map (·.second)).Pairwise (· ≤ ·)
  civil : ∀ σ ∈ s.moves.map (·.second), IsCivil σ
  named : ∀ e ∈ tagged s.moves, e.1.path = path ++ e.2.suffix ∧ Fits path name e.2.suffix
  there : ∀ e ∈ kept keep s.moves,
    s.files.node? (dir ++ [name ++ e.2.suffix]) = some (.file e.1.file)
  only : ∀ n x, isBackup name n = true → s.files.node? (dir ++ [n]) = some x →
    ∃ e ∈ kept keep s.moves, n = name ++ e.2.suffix

/-- What a rotation and the pruning after it do: the file gets the name of a tag, and `gone` is the
name that is removed. -/
structure Rotates (path : String) (dir : Location) (name : String) (number keep : Nat)
    (s s' : History) (tag : Tag) (gone : Option String) : Prop where
  moves : s'.moves = s.moves ++ [⟨path ++ tag.suffix, number, tag.second⟩]
  opened : s'.rotator.path = path
  keeps : s'.rotator.maxBackups = keep
  attached : s'.rotator.Attached s'.files dir name s.files.next
  fits : Fits path name tag.suffix
  node : ∀ n, isBackup name n = true → s'.files.node? (dir ++ [n]) =
    if gone = some n then none else if n = name ++ tag.suffix then some (.file number)
    else s.files.node? (dir ++ [n])
  few : s.moves.length < keep → gone = none
  many : keep ≤ s.moves.length → ∃ t ∈ (kept keep s.moves).map (·.2) ++ [tag],
    gone = some (name ++ t.suffix) ∧
      ∀ t' ∈ (kept keep s.moves).map (·.2) ++ [tag], ¬t'.suffix.toList < t.suffix.toList
  fresh : (s.moves.map (·.second)).count tag.second ≤ keep →
    tag.index = (s.moves.map (·.second)).count tag.second
  reused : keep < (s.moves.map (·.second)).count tag.second → tag.index = 0

/-! ## The tags in use -/

variable {e : Move × Tag} {σ : Int} {i : Nat}

theorem kept_subset (h : e ∈ kept keep s.moves) : e ∈ tagged s.moves := List.mem_of_mem_drop h

theorem map_snd_kept (keep : Nat) (moves : List Move) : (kept keep moves).map (·.2) =
    (tags (moves.map (·.second))).drop ((moves.map (·.second)).length - keep) := by
  rw [kept, List.map_drop, map_snd_tagged, List.length_map]

theorem mem_tags_of_tagged {moves : List Move} (h : e ∈ tagged moves) :
    e.2 ∈ tags (moves.map (·.second)) := by
  rw [← map_snd_tagged]
  exact List.mem_map_of_mem h

theorem isBackup_tag (name : String) (t : Tag) : isBackup name (name ++ t.suffix) = true :=
  isBackup_suffix name _ _

theorem append_tag_ne (name : String) (t : Tag) : name ++ t.suffix ≠ name :=
  append_suffix_ne name _ _

theorem Trimmed.civil_of_mem (h : Trimmed path dir name number keep s) (he : e ∈ tagged s.moves) :
    IsCivil e.2.second :=
  h.civil _ (second_mem (mem_tags_of_tagged he))

/-- Where the files moved away stand under the names of some tags, the names of these are taken, and
of no others. -/
theorem taken_iff_mem {es : List (Move × Tag)} (hcivil : ∀ e ∈ es, IsCivil e.2.second)
    (hthere : ∀ e ∈ es, fs.node? (dir ++ [name ++ e.2.suffix]) = some (.file e.1.file))
    (honly : ∀ n x, isBackup name n = true → fs.node? (dir ++ [n]) = some x →
      ∃ e ∈ es, n = name ++ e.2.suffix) {t : Tag} (ht : IsCivil t.second) :
    (∃ x, fs.node? (dir ++ [name ++ t.suffix]) = some x) ↔ t ∈ es.map (·.2) := by
  rw [List.mem_map]
  constructor
  · rintro ⟨x, hx⟩
    obtain ⟨e, he, hname⟩ := honly _ x (isBackup_tag name t) hx
    have hsuffix := (String.append_right_inj name).mp hname
    exact ⟨e, he, (Tag.suffix_injective ht (hcivil e he) hsuffix).symm⟩
  · rintro ⟨e, he, rfl⟩
    exact ⟨_, hthere e he⟩

/-- Which names of the latest second are taken. -/
theorem Trimmed.taken_iff (h : Trimmed path dir name number keep s)
    (hle : ∀ τ ∈ s.moves.map (·.second), τ ≤ σ) (hσ : IsCivil σ) :
    (∃ x, s.files.node? (dir ++ [name ++ Tag.suffix ⟨σ, i⟩]) = some x) ↔
      i < (s.moves.map (·.second)).count σ ∧ (s.moves.map (·.second)).count σ ≤ i + keep := by
  rw [← mem_drop_tags h.sorted hle, ← map_snd_kept]
  exact taken_iff_mem (fun e he => h.civil_of_mem (kept_subset he)) h.there h.only hσ

/-- The name that the file gets: the next of its second, or the first one again if that has been
given up already. -/
theorem Trimmed.index_of_free (h : Trimmed path dir name number keep s)
    (hle : ∀ τ ∈ s.moves.map (·.second), τ ≤ σ) (hσ : IsCivil σ)
    (hfree : s.files.node? (dir ++ [name ++ Tag.suffix ⟨σ, i⟩]) = none)
    (hused : ∀ j < i, ∃ x, s.files.node? (dir ++ [name ++ Tag.suffix ⟨σ, j⟩]) = some x) :
    ((s.moves.map (·.second)).count σ ≤ keep → i = (s.moves.map (·.second)).count σ) ∧
      (keep < (s.moves.map (·.second)).count σ → i = 0) := by
  have hnot : ¬∃ x, s.files.node? (dir ++ [name ++ Tag.suffix ⟨σ, i⟩]) = some x := by simp [hfree]
  rw [h.taken_iff hle hσ] at hnot
  simp only [h.taken_iff hle hσ] at hused
  constructor
  · intro hfew
    by_contra hne
    have := hused ((s.moves.map (·.second)).count σ)
    omega
  · intro hmany
    by_contra hne
    have := hused 0 (by omega)
    omega

/-! ## One rotation -/

variable {tag : Tag} {new n : String} {r : Rotator}

/-- What a move changes among the files moved away. -/
theorem Moved.node_backup (h : Moved fs fs' dir name new number) (hn : isBackup name n = true) :
    fs'.node? (dir ++ [n]) =
      if n = new then some (.file number) else fs.node? (dir ++ [n]) := by
  have hne : n ≠ name := by
    rintro rfl
    rw [isBackup_self] at hn
    simp at hn
  rw [h.node]
  simp only [List.append_cancel_left_eq, List.cons.injEq, and_true, if_neg hne]

/-- A file beside it can be removed. -/
theorem Attached.unlink (h : r.Attached fs dir name number) (hne : n ≠ name) {m : Nat}
    (hn : fs.node? (dir ++ [n]) = some (.file m)) :
    r.Attached (fs.unlink (dir ++ [n])) dir name number where
  sound := h.sound.unlink_file hn
  place := by
    refine place_mono (fun l hl => ?_) h.place
    by_cases hnil : l = []
    · subst hnil
      rfl
    rw [node?_unlink _ _ _ hnil, if_neg, hl]
    rintro rfl
    rw [hn] at hl
    simp at hl
  short := h.short
  running := h.running
  handle := h.handle
  node := by
    rw [node?_unlink _ _ _ (by simp), if_neg (by simpa using hne.symm), h.node]
  size := h.size

theorem Trimmed.civil_concat (h : Trimmed path dir name number keep s)
    (hcivil : IsCivil tag.second) :
    ∀ t ∈ (kept keep s.moves).map (·.2) ++ [tag], IsCivil t.second := by
  intro t ht
  rcases List.mem_append.mp ht with ht | ht
  · obtain ⟨e, he, rfl⟩ := List.mem_map.mp ht
    exact h.civil_of_mem (kept_subset he)
  · rwa [List.mem_singleton.mp ht]

/-- A tag whose name is free has not been given out. -/
theorem Trimmed.nodup_suffixes (h : Trimmed path dir name number keep s)
    (hfree : s.files.node? (dir ++ [name ++ tag.suffix]) = none) (hcivil : IsCivil tag.second) :
    (((kept keep s.moves).map (·.2) ++ [tag]).map Tag.suffix).Nodup := by
  have hcivil' := h.civil_concat hcivil
  refine List.Nodup.map_on (fun t ht t' ht' heq => ?_) ?_
  · exact Tag.suffix_injective (hcivil' t ht) (hcivil' t' ht') heq
  · refine List.nodup_append.mpr ⟨?_, List.nodup_singleton _, ?_⟩
    · rw [map_snd_kept]
      exact (nodup_tags _).sublist (List.drop_sublist _ _)
    · rintro t ht _ ht' rfl
      rw [List.mem_singleton.mp ht'] at ht
      obtain ⟨e, he, rfl⟩ := List.mem_map.mp ht
      have := h.there e he
      rw [hfree] at this
      simp at this

/-- What is there after the move, before the least name is removed. -/
theorem Trimmed.listed (h : Trimmed path dir name number keep s)
    (hmoved : Moved s.files fs' dir name (name ++ tag.suffix) number)
    (hplace : fs'.place path = .ok ⟨dir, .name name, false⟩) (hfits : Fits path name tag.suffix)
    (hcivil : IsCivil tag.second) :
    Listed fs' path dir name (((kept keep s.moves).map (·.2) ++ [tag]).map Tag.suffix) := by
  refine ⟨hmoved.sound, hplace, h.nodup_suffixes hmoved.free hcivil, ?_, ?_, ?_⟩
  · intro suffix hsuffix
    obtain ⟨t, ht, rfl⟩ := List.mem_map.mp hsuffix
    rcases List.mem_append.mp ht with ht | ht
    · obtain ⟨e, he, rfl⟩ := List.mem_map.mp ht
      exact (h.named e (kept_subset he)).2
    · rwa [List.mem_singleton.mp ht]
  · intro suffix hsuffix
    obtain ⟨t, ht, rfl⟩ := List.mem_map.mp hsuffix
    rw [hmoved.node_backup (isBackup_tag name t)]
    rcases List.mem_append.mp ht with ht | ht
    · obtain ⟨e, he, rfl⟩ := List.mem_map.mp ht
      rw [h.there e he]
      split_ifs
      · exact ⟨_, rfl⟩
      · exact ⟨_, rfl⟩
    · rw [List.mem_singleton.mp ht, if_pos rfl]
      exact ⟨_, rfl⟩
  · intro n x hbackup hx
    rw [hmoved.node_backup hbackup] at hx
    split_ifs at hx with hsame
    · exact ⟨tag.suffix, List.mem_map.mpr ⟨tag, by simp, rfl⟩, hsame⟩
    · obtain ⟨e, he, hn⟩ := h.only n x hbackup hx
      exact ⟨e.2.suffix, List.mem_map.mpr
        ⟨e.2, List.mem_append_left _ (List.mem_map_of_mem he), rfl⟩, hn⟩

theorem suffix_now (c : Call) (i : Nat) :
    suffix c.now.stamp i = Tag.suffix ⟨c.now.seconds, i⟩ := by
  rw [stamp_eq_stampOf (t := c.now) (Timestamp.nanos_ofNanoseconds_lt c.clock)]
  rfl

/-- No write fails as long as the names of its second are short enough: only so many of them are
taken. -/
theorem Trimmed.passes (h : Trimmed path dir name number keep s) (hkeep : 0 < keep)
    (hle : ∀ τ ∈ s.moves.map (·.second), τ ≤ c.now.seconds) (hcivil : IsCivil c.now.seconds)
    (hfits : ∀ i ≤ keep, Fits path name (Tag.suffix ⟨c.now.seconds, i⟩)) : s.Passes c := by
  intro _
  obtain rfl := h.opened
  obtain ⟨i, hpath, hfree, hused⟩ := exists_backupPath (t := c.now) h.attached.place
  have htaken : ∀ j < i, j < (s.moves.map (·.second)).count c.now.seconds ∧
      (s.moves.map (·.second)).count c.now.seconds ≤ j + keep := by
    intro j hj
    rw [← h.taken_iff hle hcivil, ← suffix_now]
    exact node?_of_has h.attached.place (hused j hj)
  have hi : i ≤ keep := by
    by_contra hlt
    have := htaken 0 (by omega)
    have := htaken keep (by omega)
    omega
  have hfit := hfits i hi
  rw [hpath]
  rw [suffix_now] at hfree ⊢
  have hplace := place_append h.attached.place hfit.slash hfit.nul hfit.size
  rw [rename_eq_relocate h.attached.place hplace h.attached.short hfit.short h.attached.node
    (free_of_not_has hplace hfit.short hfree)]

theorem length_kept (keep : Nat) (moves : List Move) :
    (kept keep moves).length = min keep moves.length := by
  rw [kept, List.length_drop, length_tagged]
  omega

/-- A write that is due, up to the pruning: the file is moved to the name of a tag. -/
theorem Trimmed.step_due (h : Trimmed path dir name number keep s) (hkeep : 0 < keep)
    (hle : ∀ τ ∈ s.moves.map (·.second), τ ≤ c.now.seconds) (hcivil : IsCivil c.now.seconds)
    (hdue : s.rotator.isDue c.bytes.length = true) (hpass : s.Passes c) :
    ∃ (tag : Tag) (fs' : FileSystem), tag.second = c.now.seconds ∧ Fits path name tag.suffix ∧
      ((s.moves.map (·.second)).count tag.second ≤ keep →
        tag.index = (s.moves.map (·.second)).count tag.second) ∧
      (keep < (s.moves.map (·.second)).count tag.second → tag.index = 0) ∧
      Moved s.files fs' dir name (name ++ tag.suffix) number ∧
      Attached { s.rotator with
        handle := some s.files.next, size := 0, rotations := s.rotator.rotations + 1 }
        fs' dir name s.files.next ∧
      s.step c = ⟨{ s.rotator with
          handle := some s.files.next, size := 0 + c.bytes.length,
          rotations := s.rotator.rotations + 1 },
        (prune path keep fs').append s.files.next c.bytes, s.results ++ [.ok c.bytes.length],
        s.moves ++ [⟨path ++ tag.suffix, number, tag.second⟩]⟩ := by
  obtain rfl := h.opened
  obtain rfl := h.keeps
  obtain ⟨i, fs', -, -, hused, hplace, hmoved, hattached, hstep⟩ :=
    History.step_due h.attached hdue hpass
  have hindex := h.index_of_free (i := i) hle hcivil
    (by rw [← suffix_now]; exact hmoved.free)
    (fun j hj => by rw [← suffix_now]; exact node?_of_has h.attached.place (hused j hj))
  have hslash := not_mem_suffix c.now i (.inl rfl)
  have hnul := not_mem_suffix c.now i (.inr rfl)
  rw [suffix_now] at hplace hmoved hslash hnul hstep
  rw [if_neg (Nat.ne_of_gt hkeep)] at hstep
  exact ⟨⟨c.now.seconds, i⟩, fs', rfl,
    ⟨isBackup_tag _ _, hslash, hnul, size_le_of_place hplace, hmoved.short⟩, hindex.1, hindex.2,
    hmoved, hattached, hstep⟩

/-- A write that is due moves the file to a free name, and removes the least name if there are too
many. -/
theorem Trimmed.rotates (h : Trimmed path dir name number keep s) (hkeep : 0 < keep)
    (hle : ∀ τ ∈ s.moves.map (·.second), τ ≤ c.now.seconds) (hcivil : IsCivil c.now.seconds)
    (hdue : s.rotator.isDue c.bytes.length = true) (hpass : s.Passes c) :
    ∃ tag gone, tag.second = c.now.seconds ∧
      Rotates path dir name number keep s (s.step c) tag gone := by
  obtain ⟨tag, fs', hsecond, hfits, hfresh, hreused, hmoved, hattached, hstep⟩ :=
    h.step_due hkeep hle hcivil hdue hpass
  have hplace : fs'.place path = .ok ⟨dir, .name name, false⟩ := h.opened ▸ hattached.place
  have hlisted := h.listed hmoved hplace hfits (hsecond ▸ hcivil)
  have hlength : (((kept keep s.moves).map (fun e => e.2) ++ [tag]).map Tag.suffix).length =
      min keep s.moves.length + 1 := by simp [length_kept]
  by_cases hfew : s.moves.length < keep
  · rw [hlisted.prune_few (by omega)] at hstep
    refine ⟨tag, none, hsecond, ?_⟩
    rw [hstep]
    refine ⟨rfl, h.opened, h.keeps, hattached.append, hfits, fun n hn => ?_, fun _ => rfl,
      fun hmany => absurd hfew (Nat.not_lt.mpr hmany), hfresh, hreused⟩
    rw [node?_append, hmoved.node_backup hn]
    simp
  · rw [Nat.min_eq_left (Nat.le_of_not_lt hfew)] at hlength
    obtain ⟨suffix, hmem, hleast, hprune⟩ := hlisted.prune_one hlength
    obtain ⟨t, ht, rfl⟩ := List.mem_map.mp hmem
    obtain ⟨m, hm⟩ := hlisted.file _ hmem
    rw [hprune] at hstep
    refine ⟨tag, some (name ++ t.suffix), hsecond, ?_⟩
    rw [hstep]
    refine ⟨rfl, h.opened, h.keeps, (hattached.unlink (append_tag_ne name t) hm).append, hfits,
      fun n hn => ?_, fun hlt => absurd hlt hfew, fun _ => ⟨t, ht, rfl, fun t' ht' hlt => ?_⟩,
      hfresh, hreused⟩
    · rw [node?_append, node?_unlink _ _ _ (by simp), hmoved.node_backup hn]
      by_cases hgone : n = name ++ t.suffix
      · simp [hgone]
      · simp [hgone, Ne.symm hgone]
    · refine String.not_lt.mpr (hleast _ (List.mem_map_of_mem ht')) ?_
      show (name ++ t'.suffix).toList < (name ++ t.suffix).toList
      rw [String.toList_append, String.toList_append]
      exact List.append_left_lt hlt

end LogPipeline.Rotator
