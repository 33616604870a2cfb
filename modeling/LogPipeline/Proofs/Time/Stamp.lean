import LogPipeline.Proofs.Time.Digits
import Mathlib.Tactic.ByContra

/-!
# The order of stamps

Dates follow each other as their days do (`ofDays_lt`), so in the years 0 to 9999 the stamp of a
later second is the greater text (`stamp_lt`), and two points in time have one stamp exactly if
they lie in one second (`stamp_eq_iff`).
-/

namespace LogPipeline

/-! ## Dates -/

/-- The year of an era on its `d`-th day. -/
def yearOfEra (d : Nat) : Nat := (d - d / 1460 + d / 36524 - d / 146096) / 365

theorem yearOfEra_mono {d e : Nat} (h : d ≤ e) : yearOfEra d ≤ yearOfEra e := by
  induction h with
  | refl => exact Nat.le_refl _
  | step _ ih =>
    refine Nat.le_trans ih ?_
    unfold yearOfEra
    omega

/-- A year of an era begins on a day before or at each of its days, and less than 366 before. -/
theorem yearOfEra_bounds {d : Nat} (h : d < 146097) :
    yearOfEra d < 400 ∧ 365 * yearOfEra d + yearOfEra d / 4 ≤ d + yearOfEra d / 100 ∧
      d + yearOfEra d / 100 ≤ 365 * yearOfEra d + yearOfEra d / 4 + 365 := by
  obtain ⟨y, hy⟩ : ∃ y, y = yearOfEra d := ⟨_, rfl⟩
  have hlow : 365 * y + d / 1460 + d / 146096 ≤ d + d / 36524 := by
    unfold yearOfEra at hy
    omega
  have hhigh : d + d / 36524 < 365 * y + 365 + d / 1460 + d / 146096 := by
    unfold yearOfEra at hy
    omega
  rw [← hy]
  -- within one century of the year and one of the day both sides are linear
  have hc : y / 100 = 0 ∨ y / 100 = 1 ∨ y / 100 = 2 ∨ y / 100 = 3 := by omega
  have hf : d / 36524 = 0 ∨ d / 36524 = 1 ∨ d / 36524 = 2 ∨ d / 36524 = 3 ∨ d / 36524 = 4 := by
    omega
  refine ⟨by omega, ?_, ?_⟩ <;>
    rcases hc with hc | hc | hc | hc <;> rcases hf with hf | hf | hf | hf | hf <;> omega

/-- A date by the day `d` of its era, its day `q` of the year and its month `p`, both counted from
the first of March. -/
theorem ofDays_eq (days : Int) : ∃ (era : Int) (d q p : Nat),
    days + 719468 = era * 146097 + d ∧ d < 146097 ∧
      q + 365 * yearOfEra d + yearOfEra d / 4 = d + yearOfEra d / 100 ∧ q ≤ 365 ∧
      p = (5 * q + 2) / 153 ∧
      12 * (Date.ofDays days).year + (Date.ofDays days).month =
        12 * (yearOfEra d + 400 * era) + p + 3 ∧
      1 ≤ (Date.ofDays days).month ∧ (Date.ofDays days).month ≤ 12 ∧
      (Date.ofDays days).day + (153 * p + 2) / 5 = q + 1 := by
  obtain ⟨d, hd⟩ : ∃ d : Nat, d = ((days + 719468).fmod 146097).toNat := ⟨_, rfl⟩
  have hmod : (days + 719468).fmod 146097 = (days + 719468) % 146097 :=
    Int.fmod_eq_emod_of_nonneg _ (by decide)
  have hdiv : (days + 719468).fdiv 146097 = (days + 719468) / 146097 :=
    Int.fdiv_eq_ediv_of_nonneg _ (by decide)
  have hlt : d < 146097 := by omega
  obtain ⟨hy, hlow, hhigh⟩ := yearOfEra_bounds hlt
  obtain ⟨q, hq⟩ : ∃ q : Nat,
    q = d - (365 * yearOfEra d + yearOfEra d / 4 - yearOfEra d / 100) := ⟨_, rfl⟩
  obtain ⟨p, hp⟩ : ∃ p : Nat, p = (5 * q + 2) / 153 := ⟨_, rfl⟩
  have hdate : Date.ofDays days =
      { year := (yearOfEra d : Int) + (days + 719468).fdiv 146097 * 400 +
          if (if p < 10 then p + 3 else p - 9) ≤ 2 then 1 else 0
        month := if p < 10 then p + 3 else p - 9
        day := q - (153 * p + 2) / 5 + 1 } := by
    rw [hp, hq, hd]
    rfl
  refine ⟨(days + 719468) / 146097, d, q, p, by omega, hlt, by omega, by omega, hp, ?_, ?_, ?_, ?_⟩
  all_goals rw [hdate]; dsimp only
  · rw [hdiv]
    split <;> split <;> omega
  · split <;> omega
  · split <;> omega
  · omega

/-- Later days have later dates. -/
theorem ofDays_lt {m n : Int} (h : m < n) :
    (Date.ofDays m).year < (Date.ofDays n).year ∨
      (Date.ofDays m).year = (Date.ofDays n).year ∧
        ((Date.ofDays m).month < (Date.ofDays n).month ∨
          (Date.ofDays m).month = (Date.ofDays n).month ∧
            (Date.ofDays m).day < (Date.ofDays n).day) := by
  obtain ⟨era, d, q, p, hm, hd, hq, hq', hp, hmonths, hlow, hhigh, hday⟩ := ofDays_eq m
  obtain ⟨era', d', q', p', hn, hd', hr, hr', hp', hmonths', hlow', hhigh', hday'⟩ := ofDays_eq n
  have hy := (yearOfEra_bounds hd).1
  have hy' := (yearOfEra_bounds hd').1
  by_cases hera : era < era'
  · omega
  · have hera : era = era' := by omega
    have hdd : d < d' := by omega
    have hmono := yearOfEra_mono (Nat.le_of_lt hdd)
    rcases Nat.lt_or_ge (yearOfEra d) (yearOfEra d') with hyear | hyear
    · omega
    · have hyear : yearOfEra d = yearOfEra d' := by omega
      rw [hyear] at hq hmonths
      omega

theorem month_lt (days : Int) : (Date.ofDays days).month < 10 ^ 2 := by
  obtain ⟨_, _, _, _, _, _, _, _, _, _, _, hhigh, _⟩ := ofDays_eq days
  omega

theorem day_lt (days : Int) : (Date.ofDays days).day < 10 ^ 2 := by
  obtain ⟨_, _, _, _, _, _, _, hq', hp, _, _, _, hday⟩ := ofDays_eq days
  omega

/-! ## Stamps -/

namespace Timestamp

/-- A point in time outside leap seconds and in the years 0 to 9999. -/
def IsCivil (t : Timestamp) : Prop :=
  t.nanos < nanosPerSecond ∧ 0 ≤ t.date.year ∧ t.date.year ≤ 9999

instance (t : Timestamp) : Decidable t.IsCivil :=
  inferInstanceAs (Decidable (t.nanos < nanosPerSecond ∧ 0 ≤ t.date.year ∧ t.date.year ≤ 9999))

theorem nanos_ofNanoseconds_lt (ns : Int) : (ofNanoseconds ns).nanos < nanosPerSecond := by
  have : ns.fmod nanosPerSecond = ns % 1000000000 := Int.fmod_eq_emod_of_nonneg _ (by decide)
  show (ns.fmod nanosPerSecond).toNat < 1000000000
  omega

theorem mem_yearText {year : Int} {c : Char} (h : c ∈ (yearText year).toList) :
    c.isDigit = true ∨ c = '-' ∨ c = '+' := by
  unfold yearText at h
  split at h
  · exact .inl (isDigit_of_mem_padded h)
  · rw [String.toList_append, List.mem_append] at h
    rcases h with h | h
    · split at h <;> simp_all
    · exact .inl (isDigit_of_mem_padded h)

/-- The characters of a stamp. -/
theorem mem_stamp {t : Timestamp} {c : Char} (h : c ∈ t.stamp.toList) :
    c.isDigit = true ∨ c = 'T' ∨ c = '-' ∨ c = '+' := by
  simp only [stamp, String.toList_append, List.mem_append] at h
  rcases h with (((((h | h) | h) | h) | h) | h) | h
  · exact (mem_yearText h).imp_right .inr
  · exact .inl (isDigit_of_mem_padded h)
  · exact .inl (isDigit_of_mem_padded h)
  · exact .inr (.inl (by simpa using h))
  all_goals exact .inl (isDigit_of_mem_padded h)

/-- The characters of the text of a point in time. -/
theorem mem_text {t : Timestamp} {c : Char} (h : c ∈ t.text.toList) :
    c.isDigit = true ∨ c ∈ ['-', '+', 'T', ':', '.', 'Z'] := by
  have hpadded : ∀ {width n}, c ∈ (padded width n).toList →
      c.isDigit = true ∨ c ∈ ['-', '+', 'T', ':', '.', 'Z'] := fun h =>
    .inl (isDigit_of_mem_padded h)
  have hmark : ∀ {s : String}, (∀ c ∈ s.toList, c ∈ ['-', '+', 'T', ':', '.', 'Z']) →
      c ∈ s.toList → c.isDigit = true ∨ c ∈ ['-', '+', 'T', ':', '.', 'Z'] := fun hs h =>
    .inr (hs c h)
  simp only [text, String.toList_append, List.mem_append] at h
  rcases h with (((((((((((((h | h) | h) | h) | h) | h) | h) | h) | h) | h) | h) | h) | h) | h)
  · rcases mem_yearText h with h | rfl | rfl
    · exact .inl h
    · exact .inr (by decide)
    · exact .inr (by decide)
  · exact hmark (by simp) h
  · exact hpadded h
  · exact hmark (by simp) h
  · exact hpadded h
  · exact hmark (by simp) h
  · exact hpadded h
  · exact hmark (by simp) h
  · exact hpadded h
  · exact hmark (by simp) h
  · exact hpadded h
  · exact hmark (by simp) h
  · exact hpadded h
  · exact hmark (by simp) h

/-- The text of a point in time is one word. -/
theorem space_not_mem_text (t : Timestamp) : ' ' ∉ t.text.toList := fun h =>
  absurd (mem_text h) (by decide)

theorem newline_not_mem_text (t : Timestamp) : '\n' ∉ t.text.toList := fun h =>
  absurd (mem_text h) (by decide)

/-- Two fields of one width, each followed by the rest of its text: the first ones decide, and if
they are equal the rest does. -/
theorem padded_append_lt {width m n : Nat} {s t : List Char} (hw : 0 < width) (hm : m < 10 ^ width)
    (hn : n < 10 ^ width) (h : m < n ∨ m = n ∧ s < t) :
    (padded width m).toList ++ s < (padded width n).toList ++ t := by
  rcases h with h | ⟨rfl, h⟩
  · apply append_lt_append_of_lt
    · rw [length_padded hw hm, length_padded hw hn]
    · exact padded_lt hw hn h
  · exact List.append_left_lt h

theorem toList_stamp {t : Timestamp} (h : t.IsCivil) :
    t.stamp.toList = (padded 4 t.date.year.toNat).toList ++ ((padded 2 t.date.month).toList ++
      ((padded 2 t.date.day).toList ++ ('T' :: ((padded 2 t.hour).toList ++
        ((padded 2 t.minute).toList ++ ((padded 2 t.second).toList ++ [])))))) := by
  simp [stamp, yearText, h.2.1, h.2.2]

theorem secondOfDay_eq (t : Timestamp) : (t.secondOfDay : Int) = t.seconds % 86400 := by
  have : t.seconds.fmod 86400 = t.seconds % 86400 := Int.fmod_eq_emod_of_nonneg _ (by decide)
  unfold secondOfDay
  omega

theorem second_eq {t : Timestamp} (h : t.IsCivil) : t.second = t.secondOfDay % 60 := by
  have := Nat.div_eq_of_lt h.1
  unfold second
  omega

/-- The later of two seconds is on a later date, or later on the same. -/
theorem date_lt {a b : Timestamp} (h : a.seconds < b.seconds) :
    a.date.year < b.date.year ∨ a.date.year = b.date.year ∧
      (a.date.month < b.date.month ∨ a.date.month = b.date.month ∧
        (a.date.day < b.date.day ∨ a.date.day = b.date.day ∧ a.secondOfDay < b.secondOfDay)) := by
  have hsa := secondOfDay_eq a
  have hsb := secondOfDay_eq b
  have hda : a.seconds.fdiv 86400 = a.seconds / 86400 := Int.fdiv_eq_ediv_of_nonneg _ (by decide)
  have hdb : b.seconds.fdiv 86400 = b.seconds / 86400 := Int.fdiv_eq_ediv_of_nonneg _ (by decide)
  by_cases hday : a.seconds / 86400 < b.seconds / 86400
  · have hdate := ofDays_lt hday
    rw [← hda, ← hdb] at hdate
    change a.date.year < b.date.year ∨ _ ∧ (a.date.month < b.date.month ∨
      _ ∧ a.date.day < b.date.day) at hdate
    rcases hdate with hy | ⟨hy, hm | ⟨hm, hd⟩⟩
    · exact .inl hy
    · exact .inr ⟨hy, .inl hm⟩
    · exact .inr ⟨hy, .inr ⟨hm, .inl hd⟩⟩
  · have hsame : a.seconds.fdiv 86400 = b.seconds.fdiv 86400 := by omega
    have hdate : a.date = b.date := congrArg Date.ofDays hsame
    rw [hdate]
    exact .inr ⟨rfl, .inr ⟨rfl, .inr ⟨rfl, by omega⟩⟩⟩

theorem clock_lt {a b : Timestamp} (ha : a.IsCivil) (hb : b.IsCivil)
    (h : a.secondOfDay < b.secondOfDay) :
    (padded 2 a.hour).toList ++ ((padded 2 a.minute).toList ++ ((padded 2 a.second).toList ++ [])) <
      (padded 2 b.hour).toList ++
        ((padded 2 b.minute).toList ++ ((padded 2 b.second).toList ++ [])) := by
  have hsa := secondOfDay_eq a
  have hsb := secondOfDay_eq b
  have hoa := second_eq ha
  have hob := second_eq hb
  unfold hour minute
  refine padded_append_lt (by decide) (by omega) (by omega) ?_
  by_cases hh : a.secondOfDay / 3600 < b.secondOfDay / 3600
  · exact .inl hh
  refine .inr ⟨by omega, padded_append_lt (by decide) (by omega) (by omega) ?_⟩
  by_cases hmin : a.secondOfDay / 60 % 60 < b.secondOfDay / 60 % 60
  · exact .inl hmin
  refine .inr ⟨by omega, padded_append_lt (by decide) (by omega) (by omega) ?_⟩
  exact .inl (by omega)

/-- The later of two seconds has the greater stamp. -/
theorem stamp_lt {a b : Timestamp} (ha : a.IsCivil) (hb : b.IsCivil) (h : a.seconds < b.seconds) :
    a.stamp.toList < b.stamp.toList := by
  have hya := ha.2
  have hyb := hb.2
  rw [toList_stamp ha, toList_stamp hb]
  refine padded_append_lt (by decide) (by omega) (by omega) ?_
  rcases date_lt h with hy | ⟨hy, hdate⟩
  · exact .inl (by omega)
  refine .inr ⟨by rw [hy], padded_append_lt (by decide) (month_lt _) (month_lt _) ?_⟩
  rcases hdate with hm | ⟨hm, hdate⟩
  · exact .inl hm
  refine .inr ⟨hm, padded_append_lt (by decide) (day_lt _) (day_lt _) ?_⟩
  rcases hdate with hd | ⟨hd, hclock⟩
  · exact .inl hd
  exact .inr ⟨hd, List.cons_lt_cons_iff.mpr (.inr ⟨rfl, clock_lt ha hb hclock⟩)⟩

theorem length_stamp {t : Timestamp} (h : t.IsCivil) : t.stamp.toList.length = 15 := by
  have hy := h.2
  have hm : t.date.month < 10 ^ 2 := month_lt _
  have hd : t.date.day < 10 ^ 2 := day_lt _
  have hs := secondOfDay_eq t
  have hsec := second_eq h
  have hhour : t.hour < 10 ^ 2 := by unfold hour; omega
  have hmin : t.minute < 10 ^ 2 := by unfold minute; omega
  rw [toList_stamp h]
  simp only [List.length_append, List.length_cons, List.length_nil]
  rw [length_padded (by decide) (by omega), length_padded (by decide) hm,
    length_padded (by decide) hd, length_padded (by decide) hhour, length_padded (by decide) hmin,
    length_padded (by decide) (by omega)]

/-- **A stamp names a second.** -/
theorem stamp_eq_iff {a b : Timestamp} (ha : a.IsCivil) (hb : b.IsCivil) :
    a.stamp = b.stamp ↔ a.seconds = b.seconds := by
  constructor
  · intro h
    by_contra hne
    rcases Int.lt_or_gt_of_ne hne with hlt | hlt
    · exact absurd (h ▸ stamp_lt ha hb hlt) (List.lt_irrefl _)
    · exact absurd (h ▸ stamp_lt hb ha hlt) (List.lt_irrefl _)
  · intro h
    have hd : a.date = b.date := by rw [date, date, h]
    have hs : a.secondOfDay = b.secondOfDay := by rw [secondOfDay, secondOfDay, h]
    have hsec : a.second = b.second := by rw [second_eq ha, second_eq hb, hs]
    simp only [stamp, hour, minute, hd, hs, hsec]

end Timestamp

end LogPipeline
