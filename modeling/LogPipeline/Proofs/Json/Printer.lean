import LogPipeline.Json.Printer
import LogPipeline.Proofs.Text.Quoted
import LogPipeline.Proofs.Time.Digits

/-!
# The characters of JSON text

The compact text of a value holds no control character below the space (`space_le_of_mem_compact`),
so it is on one line, whatever its strings and names hold.
-/

namespace LogPipeline

variable {c : Char}

/-! ## Numbers -/

theorem space_le_of_mem_toDigits {n : Nat} (h : c ∈ Nat.toDigits 10 n) : 0x20 ≤ c.toNat :=
  Nat.le_trans (by decide)
    (toNat_of_isDigit (Nat.isDigit_of_mem_toDigits (by decide) (by decide) h)).1

/-- The text of an integer. -/
theorem toList_toString_int (n : Int) :
    (toString n).toList = (if n < 0 then ['-'] else []) ++ Nat.toDigits 10 n.natAbs := by
  cases n with
  | ofNat m => simp [toString, Int.repr]
  | negSucc m => simp [toString, Int.repr]

theorem space_le_of_mem_toString_int {n : Int} (h : c ∈ (toString n).toList) : 0x20 ≤ c.toNat := by
  rw [toList_toString_int, List.mem_append] at h
  rcases h with h | h
  · split at h
    · rw [List.mem_singleton.mp h]
      decide
    · simp at h
  · exact space_le_of_mem_toDigits h

namespace Number

theorem space_le_of_mem_zeros {n : Nat} (h : c ∈ List.replicate n '0') : 0x20 ≤ c.toNat := by
  rw [List.eq_of_mem_replicate h]
  decide

theorem space_le_of_mem_positional {places : Nat} {d : Decimal} (h : c ∈ d.positional places) :
    0x20 ≤ c.toNat := by
  have htake : ∀ n, c ∈ d.digits.take n → 0x20 ≤ c.toNat := fun n hc =>
    space_le_of_mem_toDigits (List.mem_of_mem_take hc)
  have hdrop : ∀ n, c ∈ d.digits.drop n → 0x20 ≤ c.toNat := fun n hc =>
    space_le_of_mem_toDigits (List.mem_of_mem_drop hc)
  obtain ⟨whole, hwhole⟩ : ∃ whole : List Char, whole = if d.pointAfter ≤ 0 then ['0']
    else d.digits.take d.pointAfter.toNat ++ List.replicate d.exponent.toNat '0' := ⟨_, rfl⟩
  have hinWhole : c ∈ whole → 0x20 ≤ c.toNat := by
    intro hc
    rw [hwhole] at hc
    split at hc
    · rw [List.mem_singleton.mp hc]
      decide
    · exact (List.mem_append.mp hc).elim (htake _) space_le_of_mem_zeros
  unfold Decimal.positional at h
  simp only [← hwhole] at h
  split at h
  · exact hinWhole h
  · rcases List.mem_append.mp h with h | h
    · exact hinWhole h
    rcases List.mem_cons.mp h with rfl | h
    · decide
    rcases List.mem_append.mp h with h | h
    · exact (List.mem_append.mp h).elim space_le_of_mem_zeros (hdrop _)
    · exact space_le_of_mem_zeros h

theorem space_le_of_mem_scientific {d : Decimal} (h : c ∈ d.scientific) : 0x20 ≤ c.toNat := by
  obtain ⟨power, hpower⟩ : ∃ power, power = d.pointAfter - 1 := ⟨_, rfl⟩
  have hexponent : c ∈ (if power < 0 then '-' else '+') :: Nat.toDigits 10 power.natAbs →
      0x20 ≤ c.toNat := by
    intro hc
    rcases List.mem_cons.mp hc with rfl | hc
    · split <;> decide
    · exact space_le_of_mem_toDigits hc
  have hmark : c ∈ 'e' :: (if power < 0 then '-' else '+') :: Nat.toDigits 10 power.natAbs →
      0x20 ≤ c.toNat := by
    intro hc
    rcases List.mem_cons.mp hc with rfl | hc
    · decide
    · exact hexponent hc
  have hdigits : ∀ x ∈ d.digits, 0x20 ≤ x.toNat := fun x hx => space_le_of_mem_toDigits hx
  unfold Decimal.scientific at h
  simp only [← hpower] at h
  split at h
  · simp at h
  · rename_i x heq
    rcases List.mem_cons.mp h with rfl | h
    · exact hdigits _ (by simp [heq])
    · exact hmark h
  · rename_i x more _ heq
    rcases List.mem_cons.mp h with rfl | h
    · exact hdigits _ (by simp [heq])
    rcases List.mem_cons.mp h with rfl | h
    · decide
    rcases List.mem_append.mp h with h | h
    · exact hdigits _ (by simp [heq, h])
    · exact hmark h

theorem space_le_of_mem_json {x : Binary64} (h : c ∈ (json x).toList) : 0x20 ≤ c.toNat := by
  have hmagnitude : c ∈ (if -5 < (shortest .toEven x).pointAfter &&
      (shortest .toEven x).pointAfter ≤ 16 then (shortest .toEven x).positional 1
      else (shortest .toEven x).scientific) → 0x20 ≤ c.toNat := by
    intro hc
    split at hc
    · exact space_le_of_mem_positional hc
    · exact space_le_of_mem_scientific hc
  unfold json withSign at h
  rw [String.toList_ofList] at h
  split at h
  · rcases List.mem_cons.mp h with rfl | h
    · decide
    · exact hmagnitude h
  · exact hmagnitude h

end Number

namespace Json

/-! ## Strings -/

theorem space_le_of_mem_escapeByNumber {d : Char} (h : d ∈ escapeByNumber c) : 0x20 ≤ d.toNat := by
  unfold escapeByNumber at h
  simp only [List.mem_append, List.mem_cons, List.not_mem_nil, or_false] at h
  rcases h with ((rfl | rfl) | h) | h
  · decide
  · decide
  · exact Number.space_le_of_mem_zeros h
  · obtain ⟨n, hn, rfl⟩ := Text.mem_hexDigits h
    exact Text.space_le_digitChar hn

theorem space_le_of_mem_escapeChar {d : Char} (h : d ∈ escapeChar c) : 0x20 ≤ d.toNat := by
  have hpair : ∀ x, 0x20 ≤ x.toNat → d ∈ ['\\', x] → 0x20 ≤ d.toNat := by
    intro x hx hd
    simp only [List.mem_cons, List.not_mem_nil, or_false] at hd
    rcases hd with rfl | rfl
    · decide
    · exact hx
  unfold escapeChar at h
  split at h
  · exact hpair _ (by decide) h
  · exact hpair _ (by decide) h
  · exact hpair _ (by decide) h
  · exact hpair _ (by decide) h
  · exact hpair _ (by decide) h
  · exact hpair _ (by decide) h
  · exact hpair _ (by decide) h
  · split at h
    · exact space_le_of_mem_escapeByNumber h
    · rename_i hlow
      rw [List.mem_singleton.mp h]
      exact Nat.le_of_not_lt hlow

theorem toList_quote (s : String) :
    (quote s).toList = '"' :: (s.toList.flatMap escapeChar ++ ['"']) := by
  rw [quote, String.toList_ofList, List.cons_append]

theorem space_le_of_mem_quote {s : String} (h : c ∈ (quote s).toList) : 0x20 ≤ c.toNat := by
  rw [toList_quote, List.mem_cons, List.mem_append, List.mem_singleton] at h
  rcases h with rfl | h | rfl
  · decide
  · obtain ⟨x, -, hx⟩ := List.mem_flatMap.mp h
    exact space_le_of_mem_escapeChar hx
  · decide

/-! ## Values -/

mutual

/-- **JSON text is on one line.** -/
theorem space_le_of_mem_compact : ∀ j : Json, ∀ c ∈ j.compact.toList, 0x20 ≤ c.toNat
  | .null => by
    rw [compact]
    simp
  | .bool true => by
    rw [compact]
    simp
  | .bool false => by
    rw [compact]
    simp
  | .int n => by
    rw [compact]
    exact fun c hc => space_le_of_mem_toString_int hc
  | .float x => by
    rw [compact]
    exact fun c hc => Number.space_le_of_mem_json hc
  | .str s => by
    rw [compact]
    exact fun c hc => space_le_of_mem_quote hc
  | .arr elements => by
    rw [compact, String.toList_append, String.toList_append, List.forall_mem_append,
      List.forall_mem_append]
    exact ⟨⟨by simp, space_le_of_mem_compactElements elements⟩, by simp⟩
  | .obj members => by
    rw [compact, String.toList_append, String.toList_append, List.forall_mem_append,
      List.forall_mem_append]
    exact ⟨⟨by simp, space_le_of_mem_compactMembers members⟩, by simp⟩

theorem space_le_of_mem_compactElements : ∀ js : List Json,
    ∀ c ∈ (compactElements js).toList, 0x20 ≤ c.toNat
  | [] => by
    rw [compactElements]
    simp
  | [j] => by
    rw [compactElements]
    exact space_le_of_mem_compact j
  | j :: k :: rest => by
    rw [compactElements]
    · rw [String.toList_append, String.toList_append, List.forall_mem_append,
        List.forall_mem_append]
      exact ⟨⟨space_le_of_mem_compact j, by simp⟩, space_le_of_mem_compactElements (k :: rest)⟩
    · simp

theorem space_le_of_mem_compactMembers : ∀ ms : List (String × Json),
    ∀ c ∈ (compactMembers ms).toList, 0x20 ≤ c.toNat
  | [] => by
    rw [compactMembers]
    simp
  | [(name, j)] => by
    rw [compactMembers, String.toList_append, String.toList_append, List.forall_mem_append,
      List.forall_mem_append]
    exact ⟨⟨fun c hc => space_le_of_mem_quote hc, by simp⟩, space_le_of_mem_compact j⟩
  | (name, j) :: m :: rest => by
    rw [compactMembers]
    · rw [String.toList_append, String.toList_append, String.toList_append, String.toList_append,
        List.forall_mem_append, List.forall_mem_append, List.forall_mem_append,
        List.forall_mem_append]
      exact ⟨⟨⟨⟨fun c hc => space_le_of_mem_quote hc, by simp⟩, space_le_of_mem_compact j⟩,
        by simp⟩, space_le_of_mem_compactMembers (m :: rest)⟩
    · simp

end

end Json

end LogPipeline
