import LogPipeline.Proofs.Rotation.Pruning

/-!
# Which files are kept

A rotating file that keeps a number of the files moved away keeps the last ones, all through a run
with a clock that does not go back, exactly if the seconds of its moves are `Orderly`
(`pruning_exact`). Otherwise so many files are moved in one second that their names are given out
anew, or that their counters outgrow three digits, and then a later file is removed before an
earlier one.
-/

namespace LogPipeline.Rotator

open FileSystem

variable {fs : FileSystem} {path name : String} {dir : Location} {number keep : Nat}
  {s s' : History} {c : Call} {m : Move} {e e' : Move × Tag} {n : String} {r : Rotator} {tag : Tag}
  {gone : Option String}

/-- A file moved away is still where it was moved to. -/
def Survives (fs : FileSystem) (m : Move) : Prop := ∃ l, fs.find m.path = .ok (l, .file m.file)

/-- The files moved away that are still there are the last ones, and the very last is. -/
def KeepsLatest (s : History) : Prop :=
  s.moves.Pairwise (fun a b => Survives s.files a → Survives s.files b) ∧
    ∀ m ∈ s.moves.getLast?, Survives s.files m

theorem survives_iff {suffix : String} (hplace : fs.place path = .ok ⟨dir, .name name, false⟩)
    (hfits : Fits path name suffix) (hm : m.path = path ++ suffix) :
    Survives fs m ↔ fs.node? (dir ++ [name ++ suffix]) = some (.file m.file) := by
  have hp := place_append hplace hfits.slash hfits.nul hfits.size
  rw [Survives, hm]
  constructor
  · rintro ⟨l, hl⟩
    simp only [find, hp, bind, Except.bind, if_neg (Nat.not_lt.mpr hfits.short)] at hl
    cases hn : fs.node? (dir ++ [name ++ suffix]) with
    | none => simp [hn] at hl
    | some x => cases x <;> simp_all
  · exact fun hn => ⟨_, find_name hp hfits.short hn⟩

/-! ## The last files are kept -/

theorem take_append_kept (keep : Nat) (moves : List Move) :
    (tagged moves).take (moves.length - keep) ++ kept keep moves = tagged moves :=
  List.take_append_drop _ _

theorem Trimmed.survives_kept (h : Trimmed path dir name number keep s)
    (he : e ∈ kept keep s.moves) : Survives s.files e.1 := by
  obtain ⟨hpath, hfits⟩ := h.named e (kept_subset he)
  exact (survives_iff (h.opened ▸ h.attached.place) hfits hpath).mpr (h.there e he)

/-- What is not among the last is gone: its name is free, or would be that of a later tag. -/
theorem Trimmed.not_survives (h : Trimmed path dir name number keep s)
    (he : e ∈ (tagged s.moves).take (s.moves.length - keep)) : ¬Survives s.files e.1 := by
  have hmem := List.mem_of_mem_take he
  obtain ⟨hpath, hfits⟩ := h.named e hmem
  rw [survives_iff (h.opened ▸ h.attached.place) hfits hpath]
  intro hn
  obtain ⟨e', he', hname⟩ := h.only _ _ hfits.backup hn
  have heq := Tag.suffix_injective (h.civil_of_mem hmem) (h.civil_of_mem (kept_subset he'))
    ((String.append_right_inj name).mp hname)
  have hnodup := nodup_tags (s.moves.map (·.second))
  rw [← map_snd_tagged, ← take_append_kept keep, List.map_append, List.nodup_append] at hnodup
  exact hnodup.2.2 _ (List.mem_map_of_mem he) _ (List.mem_map_of_mem he') heq

theorem Trimmed.keepsLatest (h : Trimmed path dir name number keep s) (hkeep : 0 < keep) :
    KeepsLatest s := by
  constructor
  · have hpairs : (tagged s.moves).Pairwise
        fun a b => Survives s.files a.1 → Survives s.files b.1 := by
      rw [← take_append_kept keep, List.pairwise_append]
      refine ⟨?_, ?_, fun a _ b hb _ => h.survives_kept hb⟩
      · exact List.pairwise_of_forall_mem_list fun a ha b _ hs => absurd hs (h.not_survives ha)
      · exact List.pairwise_of_forall_mem_list fun a _ b hb _ => h.survives_kept hb
    rw [← map_fst_tagged s.moves]
    exact List.pairwise_map.mpr hpairs
  · intro m hm
    obtain ⟨moves, hmoves⟩ := List.getLast?_eq_some_iff.mp hm
    have hlast := kept_concat hkeep moves m
    rw [← hmoves] at hlast
    have hmem : (m, Tag.mk m.second ((moves.map (·.second)).count m.second)) ∈
        kept keep s.moves := by
      rw [hlast]
      exact List.mem_append_right _ (List.mem_singleton_self _)
    exact h.survives_kept hmem

/-! ## After a rotation -/

/-- The oldest of one more than are kept. -/
theorem exists_oldest {moves : List Move} (h : keep < moves.length) :
    ∃ e, kept (keep + 1) moves = e :: kept keep moves := by
  have hlt : moves.length - (keep + 1) < (tagged moves).length := by
    rw [length_tagged]
    omega
  have hcons := List.drop_eq_getElem_cons hlt
  rw [show moves.length - (keep + 1) + 1 = moves.length - keep by omega] at hcons
  exact ⟨_, hcons⟩

/-- The move that a rotation makes. -/
def Rotates.move (_ : Rotates path dir name number keep s s' tag gone) : Move :=
  ⟨path ++ tag.suffix, number, tag.second⟩

/-- As long as names are not given out anew, the tag is that of the move. -/
theorem Rotates.kept_succ (hr : Rotates path dir name number keep s s' tag gone)
    (hfew : (s.moves.map (·.second)).count tag.second ≤ keep) :
    kept (keep + 1) s'.moves = kept keep s.moves ++ [(hr.move, tag)] ∧
      tagged s'.moves = tagged s.moves ++ [(hr.move, tag)] := by
  have htag : ⟨tag.second, (s.moves.map (·.second)).count tag.second⟩ = tag := by
    rw [← hr.fresh hfew]
  rw [hr.moves, kept_concat (Nat.succ_pos _), tagged_concat, Nat.add_sub_add_right, htag]
  exact ⟨rfl, rfl⟩

/-- After a rotation one more than are to be kept are there, but for the name that is gone. -/
theorem Rotates.there (h : Trimmed path dir name number keep s)
    (hr : Rotates path dir name number keep s s' tag gone) (hcivil : IsCivil tag.second)
    (hfew : (s.moves.map (·.second)).count tag.second ≤ keep)
    (he : e ∈ kept (keep + 1) s'.moves) (hgone : gone ≠ some (name ++ e.2.suffix)) :
    s'.files.node? (dir ++ [name ++ e.2.suffix]) = some (.file e.1.file) := by
  rw [hr.node _ (isBackup_tag name e.2), if_neg hgone]
  rw [(hr.kept_succ hfew).1] at he
  rcases List.mem_append.mp he with he | he
  · have hne : e.2 ≠ tag := by
      intro heq
      have hmem := mem_tags_of_tagged (kept_subset he)
      rw [heq, mem_tags, hr.fresh hfew] at hmem
      exact Nat.lt_irrefl _ hmem
    rw [if_neg, h.there e he]
    intro hname
    exact hne (Tag.suffix_injective (h.civil_of_mem (kept_subset he)) hcivil
      ((String.append_right_inj name).mp hname))
  · rw [List.mem_singleton.mp he, if_pos rfl]
    rfl

theorem Rotates.only (h : Trimmed path dir name number keep s)
    (hr : Rotates path dir name number keep s s' tag gone)
    (hfew : (s.moves.map (·.second)).count tag.second ≤ keep) {x : Node}
    (hn : isBackup name n = true) (hx : s'.files.node? (dir ++ [n]) = some x) :
    gone ≠ some n ∧ ∃ e ∈ kept (keep + 1) s'.moves, n = name ++ e.2.suffix := by
  rw [hr.node n hn] at hx
  rw [(hr.kept_succ hfew).1]
  split_ifs at hx with hgone hsame
  · exact ⟨hgone, _, List.mem_append_right _ (List.mem_singleton_self _), hsame⟩
  · obtain ⟨e, he, hname⟩ := h.only n x hn hx
    exact ⟨hgone, e, List.mem_append_left _ he, hname⟩

theorem Rotates.kept_of_few (hr : Rotates path dir name number keep s s' tag gone)
    (hlong : s.moves.length < keep) : kept (keep + 1) s'.moves = kept keep s'.moves := by
  rw [kept, kept, Nat.sub_eq_zero_of_le, Nat.sub_eq_zero_of_le]
  all_goals
    rw [hr.moves, List.length_append, List.length_singleton]
    omega

theorem Rotates.seconds (hr : Rotates path dir name number keep s s' tag gone) :
    s'.moves.map (·.second) = s.moves.map (·.second) ++ [tag.second] := by
  rw [hr.moves, List.map_append]
  rfl

theorem Rotates.sorted (h : Trimmed path dir name number keep s)
    (hr : Rotates path dir name number keep s s' tag gone)
    (hle : ∀ τ ∈ s.moves.map (·.second), τ ≤ tag.second) :
    (s'.moves.map (·.second)).Pairwise (· ≤ ·) := by
  rw [hr.seconds, List.pairwise_append]
  refine ⟨h.sorted, List.pairwise_singleton _ _, fun τ hτ x hx => ?_⟩
  rw [List.mem_singleton.mp hx]
  exact hle τ hτ

theorem Rotates.named (h : Trimmed path dir name number keep s)
    (hr : Rotates path dir name number keep s s' tag gone)
    (hfew : (s.moves.map (·.second)).count tag.second ≤ keep) :
    ∀ e ∈ tagged s'.moves, e.1.path = path ++ e.2.suffix ∧ Fits path name e.2.suffix := by
  intro e he
  rw [(hr.kept_succ hfew).2] at he
  rcases List.mem_append.mp he with he | he
  · exact h.named e he
  · rw [List.mem_singleton.mp he]
    exact ⟨rfl, hr.fits⟩

theorem Rotates.place (hr : Rotates path dir name number keep s s' tag gone) :
    s'.files.place path = .ok ⟨dir, .name name, false⟩ := by
  have := hr.attached.place
  rwa [hr.opened] at this

/-- The name that is removed is the least of one more than are to be kept. -/
theorem Rotates.least (hr : Rotates path dir name number keep s s' tag gone)
    (hfew : (s.moves.map (·.second)).count tag.second ≤ keep) (hlong : keep ≤ s.moves.length) :
    ∃ e ∈ kept (keep + 1) s'.moves, gone = some (name ++ e.2.suffix) ∧
      ∀ e' ∈ kept (keep + 1) s'.moves, ¬e'.2.suffix.toList < e.2.suffix.toList := by
  obtain ⟨t, ht, hgone, hleast⟩ := hr.many hlong
  have hmap : (kept keep s.moves).map (·.2) ++ [tag] = (kept (keep + 1) s'.moves).map (·.2) := by
    rw [(hr.kept_succ hfew).1, List.map_append]
    rfl
  rw [hmap] at ht hleast
  obtain ⟨e, he, rfl⟩ := List.mem_map.mp ht
  exact ⟨e, he, hgone, fun e' he' => hleast _ (List.mem_map_of_mem he')⟩

theorem Rotates.civil (h : Trimmed path dir name number keep s)
    (hr : Rotates path dir name number keep s s' tag gone) (hcivil : IsCivil tag.second) :
    ∀ σ ∈ s'.moves.map (·.second), IsCivil σ := by
  intro σ hσ
  rw [hr.seconds] at hσ
  rcases List.mem_append.mp hσ with hσ | hσ
  · exact h.civil σ hσ
  · rwa [List.mem_singleton.mp hσ]

/-- After an orderly move that makes one too many, the oldest file is the one that is removed. -/
theorem Rotates.oldest_gone (h : Trimmed path dir name number keep s)
    (hr : Rotates path dir name number keep s s' tag gone)
    (hle : ∀ τ ∈ s.moves.map (·.second), τ ≤ tag.second) (hcivil : IsCivil tag.second)
    (hfew : (s.moves.map (·.second)).count tag.second ≤ keep)
    (horderly : Orderly keep (s'.moves.map (·.second))) (hlong : keep ≤ s.moves.length) :
    ∃ oldest, kept (keep + 1) s'.moves = oldest :: kept keep s'.moves ∧
      gone = some (name ++ oldest.2.suffix) ∧
      ∀ e ∈ kept keep s'.moves, oldest.2.suffix ≠ e.2.suffix := by
  have hlt : keep < s'.moves.length := by
    rw [hr.moves, List.length_append, List.length_singleton]
    omega
  obtain ⟨oldest, hcons⟩ := exists_oldest hlt
  obtain ⟨t, ht, hfirst⟩ := least_of_orderly (hr.sorted h hle) (hr.civil h hcivil) horderly
    (by rwa [List.length_map])
  rw [← map_snd_kept, ← map_snd_kept, hcons, List.map_cons] at ht
  obtain rfl := (List.cons.inj ht).1
  rw [← map_snd_kept] at hfirst
  have hlater : ∀ e ∈ kept keep s'.moves, oldest.2.suffix.toList < e.2.suffix.toList :=
    fun e he => hfirst _ (List.mem_map_of_mem he)
  obtain ⟨e, he, rfl, hleast⟩ := hr.least hfew hlong
  refine ⟨oldest, hcons, ?_, fun e he heq => ?_⟩
  · rw [hcons] at he hleast
    rcases List.mem_cons.mp he with rfl | he
    · rfl
    · exact absurd (hlater e he) (hleast oldest List.mem_cons_self)
  · have := hlater e he
    rw [heq] at this
    exact absurd this (List.lt_irrefl _)

/-- Orderly moves leave the last files where they are. -/
theorem Trimmed.next (h : Trimmed path dir name number keep s)
    (hr : Rotates path dir name number keep s s' tag gone)
    (hle : ∀ τ ∈ s.moves.map (·.second), τ ≤ tag.second) (hcivil : IsCivil tag.second)
    (horderly : Orderly keep (s'.moves.map (·.second))) :
    Trimmed path dir name s.files.next keep s' := by
  have hfew : (s.moves.map (·.second)).count tag.second ≤ keep := by
    have := (horderly tag.second (by rw [hr.seconds]; simp)).1
    rw [hr.seconds, List.count_append, List.count_singleton_self] at this
    omega
  refine ⟨hr.opened, hr.attached, hr.keeps, hr.sorted h hle, hr.civil h hcivil, hr.named h hfew,
    fun e he => ?_, fun n x hn hx => ?_⟩
  all_goals by_cases hlong : s.moves.length < keep
  · obtain rfl := hr.few hlong
    exact hr.there h hcivil hfew (hr.kept_of_few hlong ▸ he) (by simp)
  · obtain ⟨oldest, hcons, rfl, hne⟩ :=
      hr.oldest_gone h hle hcivil hfew horderly (Nat.le_of_not_lt hlong)
    refine hr.there h hcivil hfew (hcons ▸ List.mem_cons_of_mem _ he) fun hgone => ?_
    exact hne e he ((String.append_right_inj name).mp (Option.some.inj hgone))
  · rw [← hr.kept_of_few hlong]
    exact (hr.only h hfew hn hx).2
  · obtain ⟨oldest, hcons, rfl, -⟩ :=
      hr.oldest_gone h hle hcivil hfew horderly (Nat.le_of_not_lt hlong)
    obtain ⟨hgone, e, he, hname⟩ := hr.only h hfew hn hx
    rw [hcons] at he
    rcases List.mem_cons.mp he with rfl | he
    · exact absurd (congrArg some hname.symm) hgone
    · exact ⟨e, he, hname⟩

theorem KeepsLatest.tagged (h : KeepsLatest s) :
    (tagged s.moves).Pairwise fun a b => Survives s.files a.1 → Survives s.files b.1 := by
  have hpairs := h.1
  rw [← map_fst_tagged s.moves] at hpairs
  exact List.pairwise_map.mp hpairs

/-- If not the oldest one is removed, it outlives a later one. -/
theorem Rotates.not_keepsLatest_of_few (h : Trimmed path dir name number keep s)
    (hr : Rotates path dir name number keep s s' tag gone)
    (hle : ∀ τ ∈ s.moves.map (·.second), τ ≤ tag.second) (hcivil : IsCivil tag.second)
    (hfew : (s.moves.map (·.second)).count tag.second ≤ keep)
    (horderly : Orderly keep (s.moves.map (·.second)))
    (hfails : ¬Orderly keep (s'.moves.map (·.second))) : ¬KeepsLatest s' := by
  have hsorted := hr.sorted h hle
  rw [hr.seconds] at hsorted hfails
  obtain ⟨hlong, t, ht, t', ht', hlt⟩ := not_least_of_not_orderly hsorted horderly hfew hfails
  rw [List.length_map] at hlong
  obtain ⟨e, he, rfl, hleast⟩ := hr.least hfew hlong
  have hmore : keep < s'.moves.length := by
    rw [hr.moves, List.length_append, List.length_singleton]
    omega
  obtain ⟨oldest, hcons⟩ := exists_oldest hmore
  rw [← hr.seconds, ← map_snd_kept, ← map_snd_kept, hcons, List.map_cons] at ht
  rw [← hr.seconds, ← map_snd_kept] at ht'
  obtain rfl := (List.cons.inj ht).1
  obtain ⟨e', he', rfl⟩ := List.mem_map.mp ht'
  have hne : e.2.suffix ≠ oldest.2.suffix := by
    intro heq
    refine hleast e' (hcons ▸ List.mem_cons_of_mem _ he') ?_
    rwa [heq]
  have hnamed := hr.named h hfew
  have hold : oldest ∈ kept (keep + 1) s'.moves := hcons ▸ List.mem_cons_self
  have hthere := hr.there h hcivil hfew hold fun hgone =>
    hne ((String.append_right_inj name).mp (Option.some.inj hgone))
  intro hlatest
  have hpairs := hlatest.tagged.sublist (List.drop_sublist (s'.moves.length - (keep + 1)) _)
  rw [show (tagged s'.moves).drop (s'.moves.length - (keep + 1)) = _ from hcons] at hpairs
  have hlater : e ∈ kept keep s'.moves := by
    rw [hcons] at he
    refine (List.mem_cons.mp he).resolve_left ?_
    rintro rfl
    exact hne rfl
  obtain ⟨hpath, hfits⟩ := hnamed oldest (kept_subset hold)
  obtain ⟨hpath', hfits'⟩ := hnamed e (kept_subset hlater)
  have hgone := (survives_iff hr.place hfits' hpath').mp (List.rel_of_pairwise_cons hpairs hlater
    ((survives_iff hr.place hfits hpath).mpr hthere))
  rw [hr.node _ (isBackup_tag name e.2), if_pos rfl] at hgone
  simp at hgone

/-- If the name is given out anew, it is the least, and the file just moved is removed. -/
theorem Rotates.not_keepsLatest_of_many (h : Trimmed path dir name number keep s)
    (hr : Rotates path dir name number keep s s' tag gone)
    (hle : ∀ τ ∈ s.moves.map (·.second), τ ≤ tag.second) (hcivil : IsCivil tag.second)
    (hmany : keep < (s.moves.map (·.second)).count tag.second) : ¬KeepsLatest s' := by
  have hlong : keep ≤ s.moves.length := by
    have := List.count_le_length (a := tag.second) (l := s.moves.map (·.second))
    rw [List.length_map] at this
    omega
  obtain ⟨t, ht, rfl, hleast⟩ := hr.many hlong
  have hlt : ∀ t' ∈ (kept keep s.moves).map (·.2), tag.suffix.toList < t'.suffix.toList := by
    intro t' ht'
    rw [map_snd_kept] at ht'
    obtain ⟨hsecond, hindex⟩ := earlier_of_mem_drop h.sorted hle hmany ht'
    have hzero := hr.reused hmany
    refine suffix_lt hcivil (hsecond ▸ hcivil) (.inr ⟨hsecond.symm, by omega⟩) fun _ => ?_
    omega
  have hsame : t = tag := by
    rcases List.mem_append.mp ht with ht | ht
    · exact absurd (hlt t ht) (hleast tag (by simp))
    · exact List.mem_singleton.mp ht
  subst hsame
  intro hlatest
  have hlast := hlatest.2 hr.move (by rw [hr.moves]; simp [Rotates.move])
  have hnode := (survives_iff hr.place hr.fits rfl).mp hlast
  rw [hr.node _ (isBackup_tag name t), if_pos rfl] at hnode
  simp at hnode

/-! ## Runs -/

variable {calls : List Call}

theorem Trimmed.step_small (h : Trimmed path dir name number keep s)
    (hdue : s.rotator.isDue c.bytes.length = false) :
    Trimmed path dir name number keep (s.step c) := by
  rw [History.step_small h.attached hdue]
  exact ⟨h.opened, h.attached.append, h.keeps, h.sorted, h.civil, h.named, h.there, h.only⟩

/-- One write: the last files are kept if the moves stay orderly, and only then. -/
theorem Trimmed.step (h : Trimmed path dir name number keep s) (hkeep : 0 < keep)
    (hle : ∀ τ ∈ s.moves.map (·.second), τ ≤ c.now.seconds) (hcivil : IsCivil c.now.seconds)
    (hpass : s.Passes c) (horderly : Orderly keep (s.moves.map (·.second))) :
    (Orderly keep ((s.step c).moves.map (·.second)) →
        ∃ number', Trimmed path dir name number' keep (s.step c)) ∧
      (KeepsLatest (s.step c) → Orderly keep ((s.step c).moves.map (·.second))) := by
  cases hdue : s.rotator.isDue c.bytes.length with
  | false =>
    rw [History.moves_of_not_due hdue]
    exact ⟨fun _ => ⟨number, h.step_small hdue⟩, fun _ => horderly⟩
  | true =>
    obtain ⟨tag, gone, hsecond, hr⟩ := h.rotates hkeep hle hcivil hdue hpass
    rw [← hsecond] at hle hcivil
    refine ⟨fun horderly' => ⟨_, h.next hr hle hcivil horderly'⟩, fun hlatest => ?_⟩
    by_contra hfails
    by_cases hfew : (s.moves.map (·.second)).count tag.second ≤ keep
    · exact hr.not_keepsLatest_of_few h hle hcivil hfew horderly hfails hlatest
    · exact hr.not_keepsLatest_of_many h hle hcivil (Nat.lt_of_not_le hfew) hlatest

/-- A run, by induction over its writes. -/
theorem Trimmed.writes (h : Trimmed path dir name number keep s) (hkeep : 0 < keep)
    (hle : ∀ τ ∈ s.moves.map (·.second), ∀ c ∈ calls, τ ≤ c.now.seconds)
    (hclock : calls.Pairwise (fun c d => c.clock ≤ d.clock))
    (hcivil : ∀ c ∈ calls, IsCivil c.now.seconds) (hcalls : s.Unhindered calls)
    (horderly : Orderly keep (s.moves.map (·.second))) :
    (Orderly keep ((s.writes calls).moves.map (·.second)) →
        ∃ number', Trimmed path dir name number' keep (s.writes calls)) ∧
      ((∀ before after, calls = before ++ after → KeepsLatest (s.writes before)) →
        Orderly keep ((s.writes calls).moves.map (·.second))) := by
  induction calls generalizing s number with
  | nil => exact ⟨fun _ => ⟨number, h⟩, fun _ => horderly⟩
  | cons c calls ih =>
    obtain ⟨hnext, hlatest⟩ := h.step hkeep (fun τ hτ => hle τ hτ c List.mem_cons_self)
      (hcivil c List.mem_cons_self) hcalls.1 horderly
    have hle' := History.seconds_le_step hle hclock
    have hcivil' : ∀ d ∈ calls, IsCivil d.now.seconds :=
      fun d hd => hcivil d (List.mem_cons_of_mem _ hd)
    constructor
    · intro hall
      obtain ⟨more, hmore⟩ := (s.step c).moves_writes calls
      rw [History.writes_cons, hmore, List.map_append] at hall
      have hfirst := orderly_of_append hall
      obtain ⟨number', htrimmed⟩ := hnext hfirst
      refine (ih htrimmed hle' hclock.of_cons hcivil' hcalls.2 hfirst).1 ?_
      rwa [hmore, List.map_append]
    · intro hall
      have hfirst := hlatest (hall [c] calls rfl)
      obtain ⟨number', htrimmed⟩ := hnext hfirst
      refine (ih htrimmed hle' hclock.of_cons hcivil' hcalls.2 hfirst).2 fun before after heq => ?_
      exact hall (c :: before) after (by rw [heq]; rfl)

variable {maxSize : Nat} {fs₀ : FileSystem}

theorem trimmed_opened (hs : fs₀.Sound) (hopen : create path maxSize keep fs₀ = (.ok r, fs))
    (hempty : backups path fs = []) :
    ∃ dir name number, Trimmed path dir name number keep (opened r fs) := by
  obtain ⟨dir, name, number, hattached, rfl, -, -⟩ := create_ok hs hopen
  refine ⟨dir, name, number, rfl, hattached, rfl, .nil, by simp [opened], by simp [opened, tagged],
    by simp [opened, kept, tagged], fun n x hn hx => ?_⟩
  exact absurd hx (node?_of_no_backups hattached.sound hattached.place hempty hn x)

/-- **Which files are kept.** A file is opened that keeps a number of those moved away, with none
there yet, and written to with a clock that does not go back, in the years 0 to 9999, with no call
to the file system failing. After each write those of the files moved away that are still there are
the last ones, with the very last among them, exactly if the seconds of the moves are orderly. -/
theorem pruning_exact (hs : fs₀.Sound) (hkeep : 0 < keep)
    (hopen : create path maxSize keep fs₀ = (.ok r, fs)) (hempty : backups path fs = [])
    (hclock : calls.Pairwise fun c d => c.clock ≤ d.clock)
    (hcivil : ∀ c ∈ calls, IsCivil c.now.seconds) (hcalls : (opened r fs).Unhindered calls) :
    (∀ before after, calls = before ++ after → KeepsLatest ((opened r fs).writes before)) ↔
      Orderly keep (((opened r fs).writes calls).moves.map (·.second)) := by
  obtain ⟨dir, name, number, htrimmed⟩ := trimmed_opened hs hopen hempty
  have hrun : ∀ calls' : List Call, calls' <+: calls →
      (Orderly keep (((opened r fs).writes calls').moves.map (·.second)) →
        ∃ number', Trimmed path dir name number' keep ((opened r fs).writes calls')) ∧
      ((∀ before after, calls' = before ++ after → KeepsLatest ((opened r fs).writes before)) →
        Orderly keep (((opened r fs).writes calls').moves.map (·.second))) := by
    rintro calls' ⟨rest, rfl⟩
    exact htrimmed.writes hkeep (by simp [opened]) (List.pairwise_append.mp hclock).1
      (fun c hc => hcivil c (List.mem_append_left _ hc)) (History.unhindered_append.mp hcalls).1
      (by simp [opened, Orderly])
  refine ⟨(hrun calls (List.prefix_refl _)).2, ?_⟩
  rintro horderly before after rfl
  obtain ⟨more, hmore⟩ := ((opened r fs).writes before).moves_writes after
  rw [History.writes_append, hmore, List.map_append] at horderly
  obtain ⟨number', hbefore⟩ := (hrun before (List.prefix_append _ _)).1 (orderly_of_append horderly)
  exact hbefore.keepsLatest hkeep

/-- A file that is to keep one of those moved away, each of which holds one octet. -/
def oneKept : History :=
  opened ⟨"app.log", 1, 1, some 0, 0, false, 0, 0⟩ (FileSystem.empty.newFile ["app.log"])

/-- What it is after the first move. -/
def oneMoved : History where
  rotator := ⟨"app.log", 1, 1, some 1, 1, false, 1, 0⟩
  files := ⟨[(["app.log.19700101T000000"], .file 0), (["app.log"], .file 1)],
    ⟨[(0, [1]), (1, [2])]⟩, 2⟩
  results := [.ok 1, .ok 1]
  moves := [⟨"app.log.19700101T000000", 0, 0⟩]

theorem create_oneKept : create "app.log" 1 1 .empty = (.ok oneKept.rotator, oneKept.files) ∧
    backups "app.log" oneKept.files = [] :=
  ⟨rfl, by decide +kernel⟩

theorem oneKept_writes : oneKept.writes [⟨0, [1]⟩, ⟨0, [2]⟩] = oneMoved := by
  -- sorting does not evaluate, so that nothing is removed is proved
  let files := oneMoved.files.setContent 1 []
  have hplace : files.place "app.log" = .ok ⟨[], .name "app.log", false⟩ := rfl
  have hprune : prune "app.log" 1 files = files := prune_of_few hplace (by decide +kernel)
  have hwrites : oneKept.writes [⟨0, [1]⟩, ⟨0, [2]⟩] =
    { oneMoved with files := (prune "app.log" 1 files).append 1 [2] } := rfl
  rw [hwrites, hprune]
  rfl

/-- Three writes in one second, and a fourth. -/
def atOnce : List Call := [⟨0, [1]⟩, ⟨0, [2]⟩, ⟨0, [3]⟩]

def fourth : Call := ⟨0, [4]⟩

theorem oneKept_unhindered : oneKept.Unhindered atOnce := by
  show oneKept.Unhindered ([⟨0, [1]⟩, ⟨0, [2]⟩] ++ [⟨0, [3]⟩])
  rw [History.unhindered_append, oneKept_writes]
  exact ⟨⟨fun _ => rfl, fun _ => rfl, trivial⟩, fun _ => rfl, trivial⟩

theorem isCivil_atOnce : ∀ c ∈ atOnce ++ [fourth], IsCivil c.now.seconds := by
  unfold IsCivil
  decide

theorem oneKept_orderly : (oneKept.writes atOnce).moves.map (·.second) = [0, 0] ∧
    Orderly 1 ((oneKept.writes atOnce).moves.map (·.second)) := by
  have hmoves : (oneKept.writes atOnce).moves.map (·.second) = [0, 0] := rfl
  rw [hmoves]
  decide

/-- Two moves in one second: the last file is kept each time. -/
theorem pruning_exact_two_moves :
    Orderly 1 ((oneKept.writes atOnce).moves.map (·.second)) ∧
      ∀ before after, atOnce = before ++ after → KeepsLatest (oneKept.writes before) :=
  ⟨oneKept_orderly.2, (pruning_exact Sound.empty (by decide) create_oneKept.1 create_oneKept.2
    (by simp [atOnce]) (fun c hc => isCivil_atOnce c (List.mem_append_left _ hc))
    oneKept_unhindered).mpr oneKept_orderly.2⟩

/-- Three moves in one second: the third file gets the name that the first had, which has been
removed by then, and is removed itself. -/
theorem not_keepsLatest_one_second :
    create "app.log" 1 1 .empty = (.ok oneKept.rotator, oneKept.files) ∧
      backups "app.log" oneKept.files = [] ∧
      (atOnce ++ [fourth]).Pairwise (fun c d => c.clock ≤ d.clock) ∧
      (∀ c ∈ atOnce ++ [fourth], IsCivil c.now.seconds) ∧
      oneKept.Unhindered (atOnce ++ [fourth]) ∧
      ¬KeepsLatest (oneKept.writes (atOnce ++ [fourth])) := by
  obtain ⟨dir, name, number, hopened⟩ :=
    trimmed_opened Sound.empty create_oneKept.1 create_oneKept.2
  obtain ⟨rfl, rfl⟩ : dir = [] ∧ name = "app.log" := by
    have hplace : oneKept.files.place "app.log" = .ok ⟨[], .name "app.log", false⟩ := rfl
    simpa using hopened.attached.place.symm.trans hplace
  -- after two moves the last file is there
  obtain ⟨hmoves, horderly⟩ := oneKept_orderly
  obtain ⟨number, htwo⟩ := (hopened.writes (by decide) (by simp [opened]) (by simp [atOnce])
    (fun c hc => isCivil_atOnce c (List.mem_append_left _ hc)) oneKept_unhindered
    (by simp [opened, Orderly])).1 horderly
  have hle : ∀ τ ∈ (oneKept.writes atOnce).moves.map (·.second),
      τ ≤ fourth.now.seconds := by
    rw [hmoves]
    decide
  have hcivil := isCivil_atOnce fourth (by simp)
  have hfits : ∀ i ≤ 1, Fits "app.log" "app.log" (Tag.suffix ⟨fourth.now.seconds, i⟩) := by
    intro i hi
    rw [← suffix_now]
    have hsize : ("app.log" ++ suffix fourth.now.stamp i).utf8ByteSize ≤ 255 := by
      rcases Nat.le_one_iff_eq_zero_or_eq_one.mp hi with rfl | rfl <;> decide
    exact ⟨isBackup_suffix _ _ _, not_mem_suffix _ _ (.inl rfl), not_mem_suffix _ _ (.inr rfl),
      hsize.trans (by decide), hsize⟩
  have hpass := htwo.passes (by decide) hle hcivil hfits
  refine ⟨create_oneKept.1, create_oneKept.2, by simp [atOnce, fourth], isCivil_atOnce,
    History.unhindered_append.mpr ⟨oneKept_unhindered, hpass, trivial⟩, fun hlatest => ?_⟩
  rw [History.writes_append] at hlatest
  -- a third move is not orderly
  have hthree : Orderly 1 (((oneKept.writes atOnce).step fourth).moves.map (·.second)) :=
    (htwo.step (by decide) hle hcivil hpass horderly).2 hlatest
  have hmoves' : ((oneKept.writes atOnce).step fourth).moves.map (·.second) = [0, 0, 0] := by
    show ((oneKept.writes ([⟨0, [1]⟩, ⟨0, [2]⟩] ++ [⟨0, [3]⟩])).step fourth).moves.map
      (·.second) = _
    rw [History.writes_append, oneKept_writes]
    rfl
  rw [hmoves'] at hthree
  exact absurd hthree (by decide)

end LogPipeline.Rotator
