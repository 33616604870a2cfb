import LogPipeline.Proofs.Rotation.Conservation
import LogPipeline.Proofs.Rotation.Pruning

/-!
# The listing is in the order of the moves

A rotating file that keeps all that is moved away lists the files in the order of their moves, as
long as the clock does not go back and no more than 1000 are moved in one second
(`backups_in_order`). Read in the order of the listing, they and the file itself give all that was
ever written.

The search for a free name ends at the next counter of its second, since the counters up to it are
all taken (`Gathered.index_of_free`). So the names are those of the `tags` of the moves, and up to
the counter 999 these are in ascending order.
-/

namespace LogPipeline.Rotator

open FileSystem

variable {fs fs₀ : FileSystem} {path name : String} {dir : Location} {number i : Nat} {σ : Int}
  {s : History} {c : Call} {before calls : List Call} {initial : Bytes} {e : Move × Tag}
  {r : Rotator}

/-- What is beside the file are the files moved away, each under the name of its tag. -/
structure Gathered (path : String) (dir : Location) (name : String) (s : History) : Prop where
  sorted : (s.moves.map (·.second)).Pairwise (· ≤ ·)
  civil : ∀ σ ∈ s.moves.map (·.second), IsCivil σ
  named : ∀ e ∈ tagged s.moves, e.1.path = path ++ e.2.suffix ∧ Fits path name e.2.suffix
  only : ∀ n x, isBackup name n = true → s.files.node? (dir ++ [n]) = some x →
    ∃ e ∈ tagged s.moves, n = name ++ e.2.suffix

theorem Gathered.civil_of_mem (h : Gathered path dir name s) (he : e ∈ tagged s.moves) :
    IsCivil e.2.second :=
  h.civil _ (second_mem (mem_tags_of_tagged he))

/-- Each file moved away is there: it stands at its path, which is that of its tag. -/
theorem Gathered.there (h : Gathered path dir name s)
    (hc : Conserved path dir name number initial calls s) (he : e ∈ tagged s.moves) :
    s.files.node? (dir ++ [name ++ e.2.suffix]) = some (.file e.1.file) := by
  have hmove : e.1 ∈ s.moves := by
    rw [← map_fst_tagged s.moves]
    exact List.mem_map_of_mem he
  obtain ⟨new, -, -, hplace, hnode⟩ := hc.stands e.1 hmove
  obtain ⟨hpath, hfits⟩ := h.named e he
  have hbeside := place_append hc.place hfits.slash hfits.nul hfits.size
  rw [← hpath, hplace] at hbeside
  obtain rfl : new = name ++ e.2.suffix := by simpa using hbeside
  exact hnode

/-! ## One write -/

/-- Of each second as many names are taken as moves were made in it. -/
theorem Gathered.taken_iff (h : Gathered path dir name s)
    (hc : Conserved path dir name number initial calls s) (hσ : IsCivil σ) :
    (∃ x, s.files.node? (dir ++ [name ++ Tag.suffix ⟨σ, i⟩]) = some x) ↔
      i < (s.moves.map (·.second)).count σ := by
  have htaken := taken_iff_mem (t := ⟨σ, i⟩) (fun e he => h.civil_of_mem he)
    (fun e he => h.there hc he) h.only hσ
  rwa [map_snd_tagged, mem_tags] at htaken

/-- The name that the file gets is the next of its second. -/
theorem Gathered.index_of_free (h : Gathered path dir name s)
    (hc : Conserved path dir name number initial calls s) (hσ : IsCivil σ)
    (hfree : s.files.node? (dir ++ [name ++ Tag.suffix ⟨σ, i⟩]) = none)
    (hused : ∀ j < i, ∃ x, s.files.node? (dir ++ [name ++ Tag.suffix ⟨σ, j⟩]) = some x) :
    i = (s.moves.map (·.second)).count σ := by
  have hnot : ¬∃ x, s.files.node? (dir ++ [name ++ Tag.suffix ⟨σ, i⟩]) = some x := by simp [hfree]
  rw [h.taken_iff hc hσ] at hnot
  simp only [h.taken_iff hc hσ] at hused
  by_contra hne
  have := hused ((s.moves.map (·.second)).count σ)
  omega

theorem Gathered.step_small (h : Gathered path dir name s)
    (hc : Conserved path dir name number initial calls s)
    (hdue : s.rotator.isDue c.bytes.length = false) : Gathered path dir name (s.step c) := by
  rw [History.step_small hc.attached hdue]
  exact ⟨h.sorted, h.civil, h.named, h.only⟩

/-- A write that is due adds the name of the next tag. -/
theorem Gathered.step_due (h : Gathered path dir name s)
    (hc : Conserved path dir name number initial calls s)
    (hle : ∀ τ ∈ s.moves.map (·.second), τ ≤ c.now.seconds) (hcivil : IsCivil c.now.seconds)
    (hdue : s.rotator.isDue c.bytes.length = true) (hpass : s.Passes c) :
    Gathered path dir name (s.step c) := by
  obtain rfl := hc.path
  obtain ⟨i, fs', -, -, hused, hplace, hmoved, -, hstep⟩ :=
    History.step_due hc.attached hdue hpass
  have hslash := not_mem_suffix c.now i (.inl rfl)
  have hnul := not_mem_suffix c.now i (.inr rfl)
  have hindex := h.index_of_free (i := i) hc hcivil (by rw [← suffix_now]; exact hmoved.free)
    fun j hj => by rw [← suffix_now]; exact node?_of_has hc.attached.place (hused j hj)
  rw [suffix_now] at hplace hmoved hslash hnul hstep
  rw [if_pos hc.keepsAll] at hstep
  have htagged : tagged (s.moves ++ [⟨s.rotator.path ++ Tag.suffix ⟨c.now.seconds, i⟩, number,
      c.now.seconds⟩]) = tagged s.moves ++ [(⟨s.rotator.path ++ Tag.suffix ⟨c.now.seconds, i⟩, number,
      c.now.seconds⟩, ⟨c.now.seconds, i⟩)] := by
    rw [tagged_concat, ← hindex]
  rw [hstep]
  refine ⟨?_, ?_, ?_, fun n x hn hx => ?_⟩
  · rw [List.map_append, List.pairwise_append]
    exact ⟨h.sorted, List.pairwise_singleton _ _, by simpa using hle⟩
  · simpa [or_imp, forall_and] using ⟨by simpa using h.civil, hcivil⟩
  · rw [htagged, List.forall_mem_append, List.forall_mem_singleton]
    exact ⟨h.named, rfl, isBackup_tag _ _, hslash, hnul, size_le_of_place hplace, hmoved.short⟩
  · rw [node?_append, hmoved.node_backup hn] at hx
    rw [htagged]
    split_ifs at hx with hnew
    · exact ⟨_, List.mem_append_right _ (List.mem_singleton_self _), hnew⟩
    · obtain ⟨e, he, hname⟩ := h.only n x hn hx
      exact ⟨e, List.mem_append_left _ he, hname⟩

/-! ## A run -/

/-- What a run keeps, by induction over its writes. -/
theorem Gathered.writes (h : Gathered path dir name s)
    (hc : Conserved path dir name number initial before s)
    (hle : ∀ τ ∈ s.moves.map (·.second), ∀ c ∈ calls, τ ≤ c.now.seconds)
    (hclock : calls.Pairwise fun c d => c.clock ≤ d.clock)
    (hcivil : ∀ c ∈ calls, IsCivil c.now.seconds) (hcalls : s.Unhindered calls) :
    Gathered path dir name (s.writes calls) := by
  induction calls generalizing s number before with
  | nil => exact h
  | cons c calls ih =>
    obtain ⟨number', hnext, -⟩ := hc.step hcalls.1
    have hgathered : Gathered path dir name (s.step c) := by
      cases hdue : s.rotator.isDue c.bytes.length with
      | false => exact h.step_small hc hdue
      | true =>
        exact h.step_due hc (fun τ hτ => hle τ hτ c List.mem_cons_self)
          (hcivil c List.mem_cons_self) hdue hcalls.1
    exact ih hgathered hnext (History.seconds_le_step hle hclock) hclock.of_cons
      (fun d hd => hcivil d (List.mem_cons_of_mem _ hd)) hcalls.2

/-! ## The listing -/

/-- The names of the files moved away, each once. -/
theorem Gathered.listed (h : Gathered path dir name s)
    (hc : Conserved path dir name number initial calls s) :
    Listed s.files path dir name ((tagged s.moves).map (·.2.suffix)) where
  sound := hc.attached.sound
  place := hc.place
  nodup := by
    have hnodup := nodup_tags (s.moves.map (·.second))
    rw [← map_snd_tagged] at hnodup
    refine List.Nodup.map_on (fun e he e' he' heq => ?_) (List.Nodup.of_map _ hnodup)
    exact List.inj_on_of_nodup_map hnodup he he'
      (Tag.suffix_injective (h.civil_of_mem he) (h.civil_of_mem he') heq)
  fits := List.forall_mem_map.mpr fun e he => (h.named e he).2
  file := List.forall_mem_map.mpr fun e he => ⟨_, h.there hc he⟩
  only n x hn hx := by
    obtain ⟨e, he, hname⟩ := h.only n x hn hx
    exact ⟨_, List.mem_map_of_mem he, hname⟩

/-- With counters of three digits the names ascend. -/
theorem Gathered.ascending (h : Gathered path dir name s)
    (hfew : ∀ σ, (s.moves.map (·.second)).count σ ≤ 1000) :
    ((tagged s.moves).map fun e => name ++ e.2.suffix).Pairwise (· ≤ ·) := by
  have hearlier := earlier_tags h.sorted
  rw [← map_snd_tagged, List.pairwise_map] at hearlier
  rw [List.pairwise_map]
  refine hearlier.imp_of_mem fun {e e'} he he' hlt => ?_
  have hindex : e'.2.index < 1000 :=
    Nat.lt_of_lt_of_le (mem_tags.mp (mem_tags_of_tagged he')) (hfew _)
  have hsuffix := suffix_lt (h.civil_of_mem he) (h.civil_of_mem he') hlt fun _ => .inl hindex
  have hname : name ++ e.2.suffix < name ++ e'.2.suffix := by
    show (name ++ e.2.suffix).toList < (name ++ e'.2.suffix).toList
    rw [String.toList_append, String.toList_append]
    exact List.append_left_lt hsuffix
  exact String.not_lt.mp (String.lt_asymm hname)

/-- **The listing.** -/
theorem Gathered.backups_eq (h : Gathered path dir name s)
    (hc : Conserved path dir name number initial calls s)
    (hfew : ∀ σ, (s.moves.map (·.second)).count σ ≤ 1000) :
    backups path s.files =
      (tagged s.moves).map fun e => Path.join (directory path) (name ++ e.2.suffix) := by
  have hperm := (h.listed hc).perm
  rw [List.map_map] at hperm
  have hsorted := ((List.mergeSort_perm _ fun a b => a ≤ b).trans hperm).eq_of_pairwise
    (fun _ _ _ _ hab hba => String.le_antisymm hab hba) (pairwise_sorted _) (h.ascending hfew)
  rw [Rotator.backups_eq hc.place, hsorted, List.map_map]
  rfl

/-- What is listed leads to where the file was moved. -/
theorem Gathered.find_listed (h : Gathered path dir name s)
    (hc : Conserved path dir name number initial calls s) (he : e ∈ tagged s.moves) :
    ∃ l, s.files.find (Path.join (directory path) (name ++ e.2.suffix)) =
        .ok (l, .file e.1.file) ∧
      s.files.find e.1.path = .ok (l, .file e.1.file) := by
  obtain ⟨hpath, hfits⟩ := h.named e he
  have hnode := h.there hc he
  have hlisted := place_join hc.place hfits.slash hfits.nul hfits.size hfits.short
  have hmoved := place_append hc.place hfits.slash hfits.nul hfits.size
  rw [hpath]
  exact ⟨_, find_name hlisted hfits.short hnode, find_name hmoved hfits.short hnode⟩

/-- The paths that are listed lead to the files moved away, one after the other. -/
theorem Gathered.listing (h : Gathered path dir name s)
    (hc : Conserved path dir name number initial calls s)
    (hfew : ∀ σ, (s.moves.map (·.second)).count σ ≤ 1000) :
    List.Forall₂ (fun listed m => ∃ l, s.files.find listed = .ok (l, .file m.file) ∧
      s.files.find m.path = .ok (l, .file m.file)) (backups path s.files) s.moves := by
  have hall : List.Forall₂ (fun listed m => ∃ l, s.files.find listed = .ok (l, .file m.file) ∧
      s.files.find m.path = .ok (l, .file m.file))
      ((tagged s.moves).map fun e => Path.join (directory path) (name ++ e.2.suffix))
      ((tagged s.moves).map (·.1)) := by
    rw [List.forall₂_map_left_iff, List.forall₂_map_right_iff, List.forall₂_same]
    exact fun e he => h.find_listed hc he
  rwa [map_fst_tagged, ← h.backups_eq hc hfew] at hall

variable {maxSize : Nat}

end LogPipeline.Rotator
