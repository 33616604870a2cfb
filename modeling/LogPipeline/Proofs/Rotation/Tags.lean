import LogPipeline.Proofs.Rotation.Order
import Mathlib.Data.List.Basic

/-!
# Tags of moves in ascending seconds

`tags` numbers moves within their seconds. `Orderly` is the condition on the seconds of the moves
under which the names of the last `keep + 1` moves are always such that the oldest one is the least
(`least_of_orderly`); as soon as it fails, another one is (`not_least_of_not_orderly`).
-/

namespace LogPipeline.Rotator

/-- The tags of moves in the given seconds, after moves in earlier ones. -/
def tagsAfter (before : List Int) : List Int → List Tag
  | [] => []
  | second :: rest => ⟨second, before.count second⟩ :: tagsAfter (before ++ [second]) rest

/-- The tags of moves in the given seconds. -/
def tags (seconds : List Int) : List Tag := tagsAfter [] seconds

variable {seconds : List Int} {σ τ : Int} {t : Tag} {i keep : Nat}

theorem tagsAfter_concat (before seconds : List Int) (σ : Int) :
    tagsAfter before (seconds ++ [σ]) =
      tagsAfter before seconds ++ [⟨σ, (before ++ seconds).count σ⟩] := by
  induction seconds generalizing before with
  | nil => simp [tagsAfter]
  | cons τ seconds ih => simp [tagsAfter, ih]

@[simp] theorem tags_nil : tags [] = [] := rfl

theorem tags_concat (seconds : List Int) (σ : Int) :
    tags (seconds ++ [σ]) = tags seconds ++ [⟨σ, seconds.count σ⟩] :=
  tagsAfter_concat [] seconds σ

@[simp] theorem length_tags (seconds : List Int) : (tags seconds).length = seconds.length := by
  induction seconds using List.reverseRecOn with
  | nil => rfl
  | append_singleton seconds σ ih => simp [tags_concat, ih]

/-- Each second has its tags up to the number of its moves. -/
theorem mem_tags : t ∈ tags seconds ↔ t.index < seconds.count t.second := by
  induction seconds using List.reverseRecOn with
  | nil => simp
  | append_singleton seconds σ ih =>
    obtain ⟨second, index⟩ := t
    rw [tags_concat, List.mem_append, ih, List.mem_singleton, List.count_append,
      List.count_singleton]
    by_cases h : σ = second
    · subst h
      simp only [Tag.mk.injEq, true_and, BEq.rfl, if_true]
      omega
    · simp only [Tag.mk.injEq, Ne.symm h, false_and, or_false, beq_iff_eq, h, if_false,
        Nat.add_zero]

theorem second_mem (h : t ∈ tags seconds) : t.second ∈ seconds :=
  List.count_pos_iff.mp (Nat.zero_lt_of_lt (mem_tags.mp h))

theorem nodup_tags (seconds : List Int) : (tags seconds).Nodup := by
  induction seconds using List.reverseRecOn with
  | nil => exact List.nodup_nil
  | append_singleton seconds σ ih =>
    rw [tags_concat, List.nodup_append]
    refine ⟨ih, List.nodup_singleton _, ?_⟩
    rintro t ht _ h rfl
    obtain rfl := List.mem_singleton.mp h
    exact absurd (mem_tags.mp ht) (Nat.lt_irrefl _)

/-- Seconds in ascending order end in the greatest. -/
theorem pairwise_concat (h : (seconds ++ [σ]).Pairwise (· ≤ ·)) :
    seconds.Pairwise (· ≤ ·) ∧ ∀ τ ∈ seconds, τ ≤ σ := by
  obtain ⟨hsorted, -, hle⟩ := List.pairwise_append.mp h
  exact ⟨hsorted, fun τ hτ => hle τ hτ σ (List.mem_singleton_self σ)⟩

theorem earlier_tags (h : seconds.Pairwise (· ≤ ·)) : (tags seconds).Pairwise Tag.Earlier := by
  induction seconds using List.reverseRecOn with
  | nil => exact .nil
  | append_singleton seconds σ ih =>
    obtain ⟨hsorted, hle⟩ := pairwise_concat h
    rw [tags_concat, List.pairwise_append]
    refine ⟨ih hsorted, List.pairwise_singleton _ _, ?_⟩
    intro t ht _ h
    obtain rfl := List.mem_singleton.mp h
    have hindex := mem_tags.mp ht
    have := hle t.second (List.count_pos_iff.mp (by omega))
    unfold Tag.Earlier
    by_cases heq : t.second = σ
    · rw [heq] at hindex
      exact .inr ⟨heq, hindex⟩
    · exact .inl (Int.lt_iff_le_and_ne.mpr ⟨this, heq⟩)

/-- The moves of the greatest second are the last ones. -/
theorem idxOf_add_count (h : seconds.Pairwise (· ≤ ·)) (hle : ∀ τ ∈ seconds, τ ≤ σ)
    (hσ : σ ∈ seconds) : seconds.idxOf σ + seconds.count σ = seconds.length := by
  induction seconds with
  | nil => simp at hσ
  | cons τ rest ih =>
    by_cases heq : τ = σ
    · subst heq
      have hall : ∀ x ∈ rest, τ = x := fun x hx =>
        Int.le_antisymm (List.rel_of_pairwise_cons h hx) (hle x (List.mem_cons_of_mem _ hx))
      rw [List.idxOf_cons_self, List.count_cons_self, List.count_eq_length.mpr hall]
      simp
    · have hrest : σ ∈ rest := (List.mem_cons.mp hσ).resolve_left (Ne.symm heq)
      have := ih h.of_cons (fun x hx => hle x (List.mem_cons_of_mem _ hx)) hrest
      rw [List.idxOf_cons_ne _ heq, List.count_cons_of_ne heq, List.length_cons]
      omega

/-- The moves of one second follow each other. -/
theorem getElem?_tags (h : seconds.Pairwise (· ≤ ·)) (hi : i < seconds.count σ) :
    (tags seconds)[seconds.idxOf σ + i]? = some ⟨σ, i⟩ := by
  induction seconds using List.reverseRecOn with
  | nil => simp at hi
  | append_singleton seconds τ ih =>
    obtain ⟨hsorted, hle⟩ := pairwise_concat h
    rw [tags_concat]
    by_cases hbefore : i < seconds.count σ
    · have hget := ih hsorted hbefore
      have hmem : σ ∈ seconds := List.count_pos_iff.mp (by omega)
      rw [List.idxOf_append_of_mem hmem, List.getElem?_append_left, hget]
      exact (List.getElem?_eq_some_iff.mp hget).1
    · -- it is the last one
      have hτ : τ = σ := by
        by_contra hne
        rw [List.count_append, List.count_singleton, if_neg (by simpa using hne)] at hi
        exact hbefore hi
      subst hτ
      obtain rfl : i = seconds.count τ := by
        rw [List.count_append, List.count_singleton_self] at hi
        omega
      have hpos : (seconds ++ [τ]).idxOf τ + seconds.count τ = (tags seconds).length := by
        rw [length_tags]
        by_cases hmem : τ ∈ seconds
        · rw [List.idxOf_append_of_mem hmem]
          exact idxOf_add_count hsorted hle hmem
        · rw [List.idxOf_append_of_notMem hmem, List.count_eq_zero.mpr hmem]
          simp
      rw [hpos]
      simp

/-- Of the greatest second the last moves have the last counters. -/
theorem mem_drop_tags (h : seconds.Pairwise (· ≤ ·)) (hle : ∀ τ ∈ seconds, τ ≤ σ) :
    ⟨σ, i⟩ ∈ (tags seconds).drop (seconds.length - keep) ↔
      i < seconds.count σ ∧ seconds.count σ ≤ i + keep := by
  induction seconds using List.reverseRecOn generalizing keep with
  | nil => simp
  | append_singleton seconds τ ih =>
    obtain ⟨hsorted, hle'⟩ := pairwise_concat h
    cases keep with
    | zero =>
      have hdrop : (seconds ++ [τ]).length - 0 = (tags (seconds ++ [τ])).length := by
        rw [length_tags, Nat.sub_zero]
      rw [hdrop, List.drop_length]
      simp
    | succ keep =>
      have hτ : τ ≤ σ := hle τ (by simp)
      have hbefore : ⟨σ, i⟩ ∈ (tags seconds).drop (seconds.length - keep) ↔
          i < seconds.count σ ∧ seconds.count σ ≤ i + keep :=
        ih hsorted fun x hx => Int.le_trans (hle' x hx) hτ
      have hlength : (seconds ++ [τ]).length - (keep + 1) = seconds.length - keep := by simp
      rw [hlength, tags_concat, List.drop_append_of_le_length (by simp), List.mem_append, hbefore,
        List.mem_singleton, List.count_append, List.count_singleton]
      by_cases heq : τ = σ
      · subst heq
        simp only [Tag.mk.injEq, true_and, BEq.rfl, if_true]
        omega
      · have hnone : seconds.count σ = 0 := by
          refine List.count_eq_zero.mpr fun hmem => heq ?_
          exact Int.le_antisymm hτ (hle' σ hmem)
        simp [hnone, heq, Ne.symm heq]

/-- Where more are made in the greatest second than are kept, those kept are all of that second, and
not the first of it. -/
theorem earlier_of_mem_drop (h : seconds.Pairwise (· ≤ ·)) (hle : ∀ τ ∈ seconds, τ ≤ σ)
    (hmany : keep < seconds.count σ) (ht : t ∈ (tags seconds).drop (seconds.length - keep)) :
    t.second = σ ∧ 0 < t.index := by
  have hσ : σ ∈ seconds := List.count_pos_iff.mp (by omega)
  have hplace := idxOf_add_count h hle hσ
  have hfirst : ⟨σ, 0⟩ ∈ (tags seconds).take (seconds.length - keep) := by
    have hget := getElem?_tags h (show 0 < seconds.count σ by omega)
    refine List.mem_of_getElem? (i := seconds.idxOf σ + 0) ?_
    rw [List.getElem?_take_of_lt (by omega), hget]
  have hpairwise := earlier_tags h
  rw [← List.take_append_drop (seconds.length - keep) (tags seconds), List.pairwise_append]
    at hpairwise
  have hsecond : t.second ≤ σ := hle _ (second_mem (List.mem_of_mem_drop ht))
  rcases hpairwise.2.2 _ hfirst t ht with hlt | ⟨heq, hlt⟩
  · exact absurd hlt (Int.not_lt.mpr hsecond)
  · exact ⟨heq.symm, hlt⟩

/-! ## Order and names -/

/-- A condition on the seconds of all moves: in no second are more than `keep + 1`, and where more
than 1000 are in one, at most `keep + 101` have been made since its first. -/
def Orderly (keep : Nat) (seconds : List Int) : Prop :=
  ∀ σ ∈ seconds, seconds.count σ ≤ keep + 1 ∧
    (seconds.count σ ≤ 1000 ∨ seconds.length ≤ seconds.idxOf σ + keep + 101)

instance (keep : Nat) (seconds : List Int) : Decidable (Orderly keep seconds) :=
  inferInstanceAs (Decidable (∀ σ ∈ seconds, _))

theorem orderly_of_append {more : List Int} (h : Orderly keep (seconds ++ more)) :
    Orderly keep seconds := by
  intro σ hσ
  obtain ⟨hcount, hlast⟩ := h σ (List.mem_append_left _ hσ)
  rw [List.count_append] at hcount hlast
  rw [List.idxOf_append_of_mem hσ, List.length_append] at hlast
  omega

/-- The oldest of the last moves, with its place among all. -/
theorem drop_tags_eq_cons (h : seconds.Pairwise (· ≤ ·)) (hlong : keep < seconds.length) :
    ∃ t, (tags seconds).drop (seconds.length - (keep + 1)) =
        t :: (tags seconds).drop (seconds.length - keep) ∧ t ∈ tags seconds ∧
      seconds.idxOf t.second + t.index + keep + 1 = seconds.length ∧
      ∀ t' ∈ (tags seconds).drop (seconds.length - keep), t.Earlier t' := by
  have hlt : seconds.length - (keep + 1) < (tags seconds).length := by
    rw [length_tags]
    omega
  have hcons := List.drop_eq_getElem_cons hlt
  rw [show seconds.length - (keep + 1) + 1 = seconds.length - keep by omega] at hcons
  have hmem : (tags seconds)[seconds.length - (keep + 1)] ∈ tags seconds := List.getElem_mem hlt
  refine ⟨_, hcons, hmem, ?_, ?_⟩
  · have hget := getElem?_tags h (mem_tags.mp hmem)
    have hpos := (List.getElem?_inj hlt (nodup_tags seconds)).mp
      ((List.getElem?_eq_getElem hlt).trans hget.symm)
    omega
  · have hpairwise := (earlier_tags h).sublist (List.drop_sublist (seconds.length - (keep + 1)) _)
    rw [hcons] at hpairwise
    exact fun t' ht' => List.rel_of_pairwise_cons hpairwise ht'

/-- **Orderly moves.** The oldest of the last moves has the least name. -/
theorem least_of_orderly (h : seconds.Pairwise (· ≤ ·)) (hcivil : ∀ σ ∈ seconds, IsCivil σ)
    (horderly : Orderly keep seconds) (hlong : keep < seconds.length) :
    ∃ t, (tags seconds).drop (seconds.length - (keep + 1)) =
        t :: (tags seconds).drop (seconds.length - keep) ∧
      ∀ t' ∈ (tags seconds).drop (seconds.length - keep), t.suffix.toList < t'.suffix.toList := by
  obtain ⟨t, hcons, hmem, hplace, hearlier⟩ := drop_tags_eq_cons h hlong
  refine ⟨t, hcons, fun t' ht' => ?_⟩
  have hmem' : t' ∈ tags seconds := List.mem_of_mem_drop ht'
  refine suffix_lt (hcivil _ (second_mem hmem)) (hcivil _ (second_mem hmem')) (hearlier t' ht') ?_
  intro heq
  have hindex := mem_tags.mp hmem'
  obtain ⟨-, hlast⟩ := horderly _ (second_mem hmem')
  rw [heq] at hplace
  omega

/-- Unless too many are made in the second of the first move that is not orderly, it leaves the
counter 101 as the oldest of the last moves, in a second that has the counter 1000. -/
theorem exists_overflow (h : (seconds ++ [σ]).Pairwise (· ≤ ·)) (horderly : Orderly keep seconds)
    (hcount : seconds.count σ ≤ keep) (hfails : ¬Orderly keep (seconds ++ [σ])) :
    ∃ τ, 1000 < (seconds ++ [σ]).count τ ∧
      (seconds ++ [σ]).idxOf τ + keep + 102 = (seconds ++ [σ]).length := by
  obtain ⟨-, hle⟩ := pairwise_concat h
  have htop : ∀ x ∈ seconds ++ [σ], x ≤ σ := by
    intro x hx
    rcases List.mem_append.mp hx with hx | hx
    · exact hle x hx
    · exact Int.le_of_eq (List.mem_singleton.mp hx)
  obtain ⟨τ, hτ, hbad⟩ : ∃ τ ∈ seconds ++ [σ], ¬((seconds ++ [σ]).count τ ≤ keep + 1 ∧
      ((seconds ++ [σ]).count τ ≤ 1000 ∨
        (seconds ++ [σ]).length ≤ (seconds ++ [σ]).idxOf τ + keep + 101)) := by
    by_contra hnone
    exact hfails fun τ hτ => by_contra fun hbad => hnone ⟨τ, hτ, hbad⟩
  refine ⟨τ, ?_⟩
  by_cases heq : τ = σ
  · -- the thousandth counter of this second is given right now
    subst heq
    have hplace := idxOf_add_count h htop hτ
    have hbefore : seconds.count τ ≤ 1000 ∨
        seconds.length ≤ (seconds ++ [τ]).idxOf τ + keep + 101 := by
      by_cases hmem : τ ∈ seconds
      · rw [List.idxOf_append_of_mem hmem]
        exact (horderly τ hmem).2
      · exact .inl (by rw [List.count_eq_zero.mpr hmem]; omega)
    rw [List.count_append, List.count_singleton_self] at hplace hbad ⊢
    rw [List.length_append, List.length_singleton] at hplace hbad ⊢
    omega
  · have hmem : τ ∈ seconds := (List.mem_append.mp hτ).resolve_right (by simpa using heq)
    obtain ⟨hfew, hlast⟩ := horderly τ hmem
    have hsame : (seconds ++ [σ]).count τ = seconds.count τ := by
      rw [List.count_append, List.count_singleton, if_neg (by simpa using Ne.symm heq)]
      rfl
    rw [hsame, List.idxOf_append_of_mem hmem, List.length_append, List.length_singleton] at hbad ⊢
    omega

theorem not_least_of_overflow (h : seconds.Pairwise (· ≤ ·))
    (hmany : 1000 < seconds.count τ) (hplace : seconds.idxOf τ + keep + 102 = seconds.length) :
    ∃ t, (tags seconds).drop (seconds.length - (keep + 1)) =
        t :: (tags seconds).drop (seconds.length - keep) ∧
      ∃ t' ∈ (tags seconds).drop (seconds.length - keep), t'.suffix.toList < t.suffix.toList := by
  obtain ⟨t, hcons, -, -, -⟩ := drop_tags_eq_cons h (show keep < seconds.length by omega)
  have hfirst := getElem?_tags h (show 101 < seconds.count τ by omega)
  have hlast := getElem?_tags h hmany
  obtain rfl : ⟨τ, 101⟩ = t := by
    have hhead := congrArg (·[0]?) hcons
    simp only [List.getElem?_drop, List.getElem?_cons_zero] at hhead
    rw [show seconds.length - (keep + 1) + 0 = seconds.idxOf τ + 101 by omega, hfirst] at hhead
    exact Option.some.inj hhead
  refine ⟨_, hcons, ⟨τ, 1000⟩, ?_, suffix_lt_of_overflow τ⟩
  refine List.mem_of_getElem? (i := 898) ?_
  rw [List.getElem?_drop, ← hlast]
  congr 1
  omega

/-- **The first move that is not orderly.** Unless too many are made in its second, another one than
the oldest of the last moves has the least name. -/
theorem not_least_of_not_orderly (h : (seconds ++ [σ]).Pairwise (· ≤ ·))
    (horderly : Orderly keep seconds) (hcount : seconds.count σ ≤ keep)
    (hfails : ¬Orderly keep (seconds ++ [σ])) :
    keep ≤ seconds.length ∧
      ∃ t, (tags (seconds ++ [σ])).drop ((seconds ++ [σ]).length - (keep + 1)) =
        t :: (tags (seconds ++ [σ])).drop ((seconds ++ [σ]).length - keep) ∧
      ∃ t' ∈ (tags (seconds ++ [σ])).drop ((seconds ++ [σ]).length - keep),
        t'.suffix.toList < t.suffix.toList := by
  obtain ⟨τ, hmany, hplace⟩ := exists_overflow h horderly hcount hfails
  refine ⟨?_, not_least_of_overflow h hmany hplace⟩
  rw [List.length_append, List.length_singleton] at hplace
  omega

end LogPipeline.Rotator
