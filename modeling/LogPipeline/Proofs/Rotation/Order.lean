import LogPipeline.Proofs.Rotation.FreeName

/-!
# The order of names

Files moved away are told apart by a `Tag`: the second of the move, and how many were moved in that
second before. Their names are in the order of the moves from second to second, and within one
second up to the counter 999 (`suffix_lt`). Beyond that a counter of four digits stands in front of
those of three that begin with greater ones (`suffix_lt_of_overflow`).
-/

namespace LogPipeline.Rotator

/-- What a file moved away is named by. -/
structure Tag where
  second : Int
  /-- How many were moved in that second before. -/
  index : Nat
  deriving DecidableEq, Repr

/-- The stamp of a second. -/
def stampOf (second : Int) : String := Timestamp.stamp ⟨second, 0⟩

/-- Whether a second lies in the years 0 to 9999. -/
def IsCivil (second : Int) : Prop := Timestamp.IsCivil ⟨second, 0⟩

def Tag.suffix (t : Tag) : String := Rotator.suffix (stampOf t.second) t.index

theorem stamp_eq_stampOf {t : Timestamp} (h : t.nanos < Timestamp.nanosPerSecond) :
    t.stamp = stampOf t.seconds := by
  have hsecond : t.second = Timestamp.second ⟨t.seconds, 0⟩ := by
    show t.secondOfDay % 60 + _ = t.secondOfDay % 60 + 0 / _
    rw [Nat.div_eq_of_lt h, Nat.zero_div]
  rw [stampOf, Timestamp.stamp, hsecond]
  rfl

theorem Tag.toList_suffix (t : Tag) : t.suffix.toList =
    '.' :: ((stampOf t.second).toList ++
      if t.index = 0 then [] else '.' :: (padded 3 t.index).toList) := by
  rw [Tag.suffix, Rotator.toList_suffix]
  rfl

/-! ## Counters -/

theorem lt_append_self {l m : List Char} (h : m ≠ []) : l < l ++ m := by
  obtain ⟨c, m, rfl⟩ := List.exists_cons_of_ne_nil h
  have : l ++ [] < l ++ c :: m := List.append_left_lt (List.nil_lt_cons c m)
  rwa [List.append_nil] at this

/-- A counter of more than three digits goes on where one of its first digits ends. -/
theorem padded_of_thousand_le {n : Nat} (h : 1000 ≤ n) :
    (padded 3 n).toList = (padded 3 (n / 10)).toList ++ [Nat.digitChar (n % 10)] := by
  have hdigits := Nat.toDigits_of_base_le (b := 10) (by decide) (show 10 ≤ n by omega)
  have hlong : ¬(Nat.toDigits 10 (n / 10)).length ≤ 2 := by
    rw [Nat.length_toDigits_le_iff (by decide) (by decide)]
    omega
  have hnone : 3 - (Nat.toDigits 10 (n / 10)).length = 0 := by omega
  have hnone' : 3 - ((Nat.toDigits 10 (n / 10)).length + 1) = 0 := by omega
  rw [toList_padded, toList_padded, hdigits, List.length_append, List.length_singleton, hnone,
    hnone']
  simp

/-- A counter up to 100 stands in front of all greater ones. -/
theorem padded_lt_of_le_hundred {m n : Nat} (hm : m ≤ 100) (h : m < n) :
    (padded 3 m).toList < (padded 3 n).toList := by
  induction n using Nat.strongRecOn with
  | ind n ih =>
    by_cases hn : n < 1000
    · exact padded_lt (by decide) (by omega) h
    rw [padded_of_thousand_le (n := n) (by omega)]
    by_cases heq : m = n / 10
    · rw [heq]
      exact lt_append_self (by simp)
    · exact List.lt_trans (ih (n / 10) (by omega) (by omega)) (lt_append_self (by simp))

/-! ## Suffixes -/

variable {s t : Tag}

/-- A tag is earlier than another one. -/
def Tag.Earlier (s t : Tag) : Prop :=
  s.second < t.second ∨ s.second = t.second ∧ s.index < t.index

theorem suffix_lt_of_second_lt (hs : IsCivil s.second) (ht : IsCivil t.second)
    (h : s.second < t.second) : s.suffix.toList < t.suffix.toList := by
  rw [s.toList_suffix, t.toList_suffix, List.cons_lt_cons_self]
  refine append_lt_append_of_lt _ _ ?_ (Timestamp.stamp_lt hs ht h)
  rw [stampOf, stampOf, Timestamp.length_stamp hs, Timestamp.length_stamp ht]

/-- An earlier tag has the lesser suffix, unless the counters have outgrown three digits. -/
theorem suffix_lt (hs : IsCivil s.second) (ht : IsCivil t.second) (h : s.Earlier t)
    (hdigits : s.second = t.second → t.index < 1000 ∨ s.index ≤ 100) :
    s.suffix.toList < t.suffix.toList := by
  rcases h with h | ⟨hsecond, hindex⟩
  · exact suffix_lt_of_second_lt hs ht h
  · rw [s.toList_suffix, t.toList_suffix, hsecond, List.cons_lt_cons_self,
      if_neg (show t.index ≠ 0 by omega)]
    apply List.append_left_lt
    split_ifs with hzero
    · exact List.nil_lt_cons _ _
    · rw [List.cons_lt_cons_self]
      rcases hdigits hsecond with hsmall | hsmall
      · exact padded_lt (by decide) (by omega) hindex
      · exact padded_lt_of_le_hundred hsmall hindex

/-- The name with the counter 1000 stands in front of the one with 101. -/
theorem suffix_lt_of_overflow (second : Int) :
    (Tag.suffix ⟨second, 1000⟩).toList < (Tag.suffix ⟨second, 101⟩).toList := by
  have hcounters : '.' :: (padded 3 1000).toList < '.' :: (padded 3 101).toList := by decide
  rw [Tag.toList_suffix, Tag.toList_suffix, List.cons_lt_cons_self]
  exact List.append_left_lt hcounters

theorem Tag.suffix_injective (hs : IsCivil s.second) (ht : IsCivil t.second)
    (h : s.suffix = t.suffix) : s = t := by
  rcases Int.lt_trichotomy s.second t.second with hlt | heq | hlt
  · exact absurd (suffix_lt_of_second_lt hs ht hlt) (h ▸ List.lt_irrefl _)
  · obtain ⟨second, i⟩ := s
    obtain ⟨second', j⟩ := t
    obtain rfl : second = second' := heq
    obtain rfl : i = j := Rotator.suffix_injective h
    rfl
  · exact absurd (suffix_lt_of_second_lt ht hs hlt) (h ▸ List.lt_irrefl _)

end LogPipeline.Rotator
