import LogPipeline.Json.Parser

/-!
# Control characters in JSON text

A control character that is no blank stands nowhere in JSON text. Whatever a reader takes from the
front of a text, such a character is still in what it leaves (`Leaves`), so in the end something is
left over and the text is refused (`Stray.parse?_eq_none`).
-/

namespace LogPipeline.Json

/-- A control character below the space that is no blank. -/
def Stray (c : Char) : Prop := c.toNat < 0x20 ∧ isBlank c = false

/-- A reader that never takes the character. -/
def Leaves {α : Type} (c : Char) (read : List Char → Option (α × List Char)) : Prop :=
  ∀ s x rest, read s = some (x, rest) → c ∈ s → c ∈ rest

/-- What a reader gives is wrapped, and what it leaves is left. -/
theorem exists_of_map {α β : Type} {read : Option (α × List Char)} {rest : List Char} {f : α → β}
    {y : β} (h : (read.map fun (x, after) => (f x, after)) = some (y, rest)) :
    ∃ x, read = some (x, rest) := by
  obtain ⟨⟨x, after⟩, hx, heq⟩ := Option.map_eq_some_iff.mp h
  obtain ⟨-, rfl⟩ := Prod.mk.inj heq
  exact ⟨x, hx⟩

/-- A part of a string has been read, and the rest of the string behind it. -/
theorem exists_of_part {read : Option (List TextPart × List Char)} {rest : List Char}
    {part : TextPart} {parts : List TextPart}
    (h : (do let (others, after) ← read; return (part :: others, after)) = some (parts, rest)) :
    ∃ others, read = some (others, rest) := by
  obtain ⟨⟨others, after⟩, hothers, heq⟩ := Option.bind_eq_some_iff.mp h
  obtain ⟨-, rfl⟩ := Prod.mk.inj (Option.some.inj heq)
  exact ⟨others, hothers⟩

theorem space_le_of_hexDigit? {c : Char} {n : Nat} (h : hexDigit? c = some n) : 0x20 ≤ c.toNat := by
  have hle : ∀ d : Char, d ≤ c → 0x20 ≤ d.toNat → 0x20 ≤ c.toNat :=
    fun d hdc hd => Nat.le_trans hd hdc
  unfold hexDigit? at h
  split at h
  · rename_i hdigit
    rw [Char.isDigit, Bool.and_eq_true, decide_eq_true_eq] at hdigit
    exact hle '0' hdigit.1 (by decide)
  · split at h
    · rename_i hlower
      rw [Bool.and_eq_true, decide_eq_true_eq] at hlower
      exact hle 'a' hlower.1 (by decide)
    · split at h
      · rename_i hupper
        rw [Bool.and_eq_true, decide_eq_true_eq] at hupper
        exact hle 'A' hupper.1 (by decide)
      · contradiction

namespace Stray

variable {c : Char} {s : List Char}

theorem mem_of_cons (h : Stray c) {d : Char} (hd : 0x20 ≤ d.toNat) (hc : c ∈ d :: s) : c ∈ s := by
  rcases List.mem_cons.mp hc with rfl | hc
  · exact absurd h.1 (Nat.not_lt.mpr hd)
  · exact hc

theorem mem_of_append (h : Stray c) {word : List Char} (hword : ∀ d ∈ word, 0x20 ≤ d.toNat)
    (hc : c ∈ word ++ s) : c ∈ s := by
  rcases List.mem_append.mp hc with hc | hc
  · exact absurd h.1 (Nat.not_lt.mpr (hword c hc))
  · exact hc

theorem isDigit_eq_false (h : Stray c) : c.isDigit = false := by
  rw [Char.isDigit, Bool.and_eq_false_iff, decide_eq_false_iff_not]
  exact .inl fun hle => absurd h.1 (Nat.not_lt.mpr (Nat.le_trans (by decide) hle))

theorem mem_skipBlanks (h : Stray c) (hc : c ∈ s) : c ∈ skipBlanks s := by
  induction s with
  | nil => exact hc
  | cons d s ih =>
    rw [skipBlanks, List.dropWhile_cons]
    split
    · rename_i hd
      rcases List.mem_cons.mp hc with rfl | hc
      · rw [h.2] at hd
        contradiction
      · exact ih hc
    · exact hc

/-! ## Strings and numbers -/

theorem leaves_text (h : Stray c) : Leaves c takeText := by
  intro s parts rest htake hc
  -- a letter behind a backslash, and what it stands for
  have hescape : ∀ {s' : List Char} {e d : Char} {parts : List TextPart}, 0x20 ≤ e.toNat →
      (∀ others, takeText s' = some (others, rest) → c ∈ s' → c ∈ rest) →
      (do let (others, after) ← takeText s'; return (.char d :: others, after)) =
        some (parts, rest) → c ∈ '\\' :: e :: s' → c ∈ rest := by
    intro s' e d parts he ih hread hc
    obtain ⟨others, hothers⟩ := exists_of_part hread
    exact ih _ hothers (h.mem_of_cons he (h.mem_of_cons (by decide) hc))
  fun_induction takeText s generalizing parts with
  | case1 => exact absurd htake (by simp)
  | case2 s' =>
    obtain ⟨-, rfl⟩ := Prod.mk.inj (Option.some.inj htake)
    exact h.mem_of_cons (by decide) hc
  | case3 a b d e s' ih =>
    obtain ⟨_, ha, htake⟩ := Option.bind_eq_some_iff.mp htake
    obtain ⟨_, hb, htake⟩ := Option.bind_eq_some_iff.mp htake
    obtain ⟨_, hd, htake⟩ := Option.bind_eq_some_iff.mp htake
    obtain ⟨_, he, htake⟩ := Option.bind_eq_some_iff.mp htake
    obtain ⟨others, hothers⟩ := exists_of_part htake
    have hword : ∀ x ∈ ['\\', 'u', a, b, d, e], 0x20 ≤ x.toNat := by
      simp [space_le_of_hexDigit? ha, space_le_of_hexDigit? hb, space_le_of_hexDigit? hd,
        space_le_of_hexDigit? he]
    exact ih _ hothers (h.mem_of_append hword hc)
  | case4 | case5 | case6 | case7 | case8 | case9 | case10 | case11 =>
    rename_i ih
    exact hescape (by decide) ih htake hc
  | case12 => exact absurd htake (by simp)
  | case13 => exact absurd htake (by simp)
  | case14 d s' _ _ _ hplain ih =>
    obtain ⟨others, hothers⟩ := exists_of_part htake
    simp only [Bool.or_eq_true, decide_eq_true_eq, not_or] at hplain
    exact ih _ hothers (h.mem_of_cons (Nat.le_of_not_lt hplain.1) hc)

theorem mem_takeDigits (h : Stray c) (hc : c ∈ s) : c ∈ (takeDigits s).2 := by
  induction s with
  | nil => exact hc
  | cons d s ih =>
    rw [takeDigits]
    split
    · rename_i n hdigit
      rcases List.mem_cons.mp hc with rfl | hc
      · rw [digit?, h.isDigit_eq_false] at hdigit
        contradiction
      · exact ih hc
    · exact hc

theorem leaves_fraction (h : Stray c) : Leaves c takeFraction := by
  intro s fraction rest htake hc
  unfold takeFraction at htake
  split at htake
  · rename_i s'
    have hdigits := h.mem_takeDigits (h.mem_of_cons (by decide) hc)
    split at htake
    · contradiction
    · rename_i digits after _ heq
      obtain ⟨-, rfl⟩ := Prod.mk.inj (Option.some.inj htake)
      rwa [heq] at hdigits
  · obtain ⟨-, rfl⟩ := Prod.mk.inj (Option.some.inj htake)
    exact hc

theorem leaves_exponent (h : Stray c) : Leaves c takeExponent := by
  intro s exponent rest htake hc
  unfold takeExponent at htake
  split at htake
  · rename_i d s'
    split at htake
    · rename_i hmark
      have hbehind : c ∈ s' := by
        refine h.mem_of_cons ?_ hc
        rw [Bool.or_eq_true, beq_iff_eq, beq_iff_eq] at hmark
        rcases hmark with rfl | rfl <;> decide
      split at htake
      rename_i isNegative digits heq
      have hdigits : c ∈ digits.2 := by
        split at heq
        · rw [← (Prod.mk.inj heq).2]
          exact h.mem_takeDigits (h.mem_of_cons (by decide) hbehind)
        · rw [← (Prod.mk.inj heq).2]
          exact h.mem_takeDigits (h.mem_of_cons (by decide) hbehind)
        · rw [← (Prod.mk.inj heq).2]
          exact h.mem_takeDigits hbehind
      split at htake
      · contradiction
      · obtain ⟨-, rfl⟩ := Prod.mk.inj (Option.some.inj htake)
        exact hdigits
    · obtain ⟨-, rfl⟩ := Prod.mk.inj (Option.some.inj htake)
      exact hc
  · exact absurd hc (by simp)

theorem leaves_unsigned (h : Stray c) (isNegative : Bool) : Leaves c (takeUnsigned isNegative) := by
  intro s t rest htake hc
  unfold takeUnsigned at htake
  dsimp only at htake
  split at htake
  · exact absurd htake (by simp)
  · exact absurd htake (by simp)
  · obtain ⟨⟨fraction, afterFraction⟩, hfraction, htake⟩ := Option.bind_eq_some_iff.mp htake
    obtain ⟨⟨exponent, after⟩, hexponent, htake⟩ := Option.bind_eq_some_iff.mp htake
    obtain ⟨-, rfl⟩ := Prod.mk.inj (Option.some.inj htake)
    exact h.leaves_exponent _ _ _ hexponent
      (h.leaves_fraction _ _ _ hfraction (h.mem_takeDigits hc))

theorem leaves_number (h : Stray c) : Leaves c takeNumber := by
  intro s t rest htake hc
  unfold takeNumber at htake
  split at htake
  · exact h.leaves_unsigned true _ _ _ htake (h.mem_of_cons (by decide) hc)
  · exact h.leaves_unsigned false _ _ _ htake hc

/-! ## Values -/

variable {fuel : Nat}

theorem leaves_value (h : Stray c) (helements : Leaves c (takeElements fuel))
    (hmembers : Leaves c (takeMembers fuel)) : Leaves c (takeValue (fuel + 1)) := by
  intro s w rest htake hc
  rw [takeValue] at htake
  have hfront := h.mem_skipBlanks hc
  have hbehind : ∀ word after : List Char, skipBlanks s = word ++ after →
      (∀ d ∈ word, 0x20 ≤ d.toNat) → c ∈ after :=
    fun _ _ heq hword => h.mem_of_append hword (heq ▸ hfront)
  split at htake
  case h_1 after heq =>
    obtain ⟨-, rfl⟩ := Prod.mk.inj (Option.some.inj htake)
    exact hbehind ['n', 'u', 'l', 'l'] _ heq (by simp)
  case h_2 after heq =>
    obtain ⟨-, rfl⟩ := Prod.mk.inj (Option.some.inj htake)
    exact hbehind ['t', 'r', 'u', 'e'] _ heq (by simp)
  case h_3 after heq =>
    obtain ⟨-, rfl⟩ := Prod.mk.inj (Option.some.inj htake)
    exact hbehind ['f', 'a', 'l', 's', 'e'] _ heq (by simp)
  case h_4 s' heq =>
    obtain ⟨parts, hparts⟩ := exists_of_map htake
    exact h.leaves_text _ _ _ hparts (hbehind ['"'] _ heq (by simp))
  case h_5 s' heq =>
    have hinside := hbehind ['['] _ heq (by simp)
    split at htake
    · rename_i after hclose
      obtain ⟨-, rfl⟩ := Prod.mk.inj (Option.some.inj htake)
      exact h.mem_of_cons (by decide) (hclose ▸ h.mem_skipBlanks hinside)
    · obtain ⟨elements, hread⟩ := exists_of_map htake
      exact helements _ _ _ hread hinside
  case h_6 s' heq =>
    have hinside := hbehind ['\x7b'] _ heq (by simp)
    split at htake
    · rename_i after hclose
      obtain ⟨-, rfl⟩ := Prod.mk.inj (Option.some.inj htake)
      exact h.mem_of_cons (by decide) (hclose ▸ h.mem_skipBlanks hinside)
    · obtain ⟨members, hread⟩ := exists_of_map htake
      exact hmembers _ _ _ hread hinside
  case h_7 =>
    obtain ⟨t, ht⟩ := exists_of_map htake
    exact h.leaves_number _ _ _ ht hfront

theorem leaves_elements (h : Stray c) (hvalue : Leaves c (takeValue fuel))
    (helements : Leaves c (takeElements fuel)) : Leaves c (takeElements (fuel + 1)) := by
  intro s ws rest htake hc
  rw [takeElements] at htake
  obtain ⟨⟨first, after⟩, hfirst, htake⟩ := Option.bind_eq_some_iff.mp htake
  have hbehind := h.mem_skipBlanks (hvalue _ _ _ hfirst hc)
  dsimp only at htake
  split at htake
  · rename_i more hcomma
    obtain ⟨⟨others, last⟩, hothers, htake⟩ := Option.bind_eq_some_iff.mp htake
    obtain ⟨-, rfl⟩ := Prod.mk.inj (Option.some.inj htake)
    exact helements _ _ _ hothers (h.mem_of_cons (by decide) (hcomma ▸ hbehind))
  · rename_i more hclose
    obtain ⟨-, rfl⟩ := Prod.mk.inj (Option.some.inj htake)
    exact h.mem_of_cons (by decide) (hclose ▸ hbehind)
  · contradiction

theorem leaves_members (h : Stray c) (hvalue : Leaves c (takeValue fuel))
    (hmembers : Leaves c (takeMembers fuel)) : Leaves c (takeMembers (fuel + 1)) := by
  intro s ms rest htake hc
  rw [takeMembers] at htake
  split at htake
  · rename_i afterQuote hquote
    obtain ⟨⟨name, afterName⟩, hname, htake⟩ := Option.bind_eq_some_iff.mp htake
    have hbehindName := h.leaves_text _ _ _ hname
      (h.mem_of_cons (by decide) (hquote ▸ h.mem_skipBlanks hc))
    dsimp only at htake
    split at htake
    · rename_i afterColon hcolon
      obtain ⟨⟨value, afterValue⟩, hread, htake⟩ := Option.bind_eq_some_iff.mp htake
      have hbehind := h.mem_skipBlanks (hvalue _ _ _ hread
        (h.mem_of_cons (by decide) (hcolon ▸ h.mem_skipBlanks hbehindName)))
      dsimp only at htake
      split at htake
      · rename_i more hcomma
        obtain ⟨⟨others, last⟩, hothers, htake⟩ := Option.bind_eq_some_iff.mp htake
        obtain ⟨-, rfl⟩ := Prod.mk.inj (Option.some.inj htake)
        exact hmembers _ _ _ hothers (h.mem_of_cons (by decide) (hcomma ▸ hbehind))
      · rename_i more hclose
        obtain ⟨-, rfl⟩ := Prod.mk.inj (Option.some.inj htake)
        exact h.mem_of_cons (by decide) (hclose ▸ hbehind)
      · contradiction
    · contradiction
  · contradiction

theorem leaves_all (h : Stray c) (fuel : Nat) : Leaves c (takeValue fuel) ∧
    Leaves c (takeElements fuel) ∧ Leaves c (takeMembers fuel) := by
  induction fuel with
  | zero =>
    refine ⟨fun _ _ _ htake => ?_, fun _ _ _ htake => ?_, fun _ _ _ htake => ?_⟩
    · simp [takeValue] at htake
    · simp [takeElements] at htake
    · simp [takeMembers] at htake
  | succ fuel ih =>
    obtain ⟨hvalue, helements, hmembers⟩ := ih
    exact ⟨h.leaves_value helements hmembers, h.leaves_elements hvalue helements,
      h.leaves_members hvalue hmembers⟩

/-- **A text with a stray control character is no JSON text.** -/
theorem parse?_eq_none (h : Stray c) {s : String} (hc : c ∈ s.toList) :
    Written.parse? s = none := by
  rw [Written.parse?]
  split
  · rename_i w rest htake
    have hleft := h.mem_skipBlanks ((h.leaves_all _).1 _ _ _ htake hc)
    rw [if_neg]
    exact fun hempty => List.ne_nil_of_mem hleft (List.isEmpty_iff.mp hempty)
  · rfl

end Stray

end LogPipeline.Json
