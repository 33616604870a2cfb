import LogPipeline.Time
import Mathlib.Algebra.Group.Nat.Defs

/-!
# The order of written numbers

Numbers written with the same count of digits stand in the order of texts as they do as numbers
(`padded_lt`), and no two numbers are written alike (`padded_injective`). A text that is followed
by others keeps its place among texts of its length (`append_lt_append_of_lt`).
-/

namespace LogPipeline

theorem append_lt_append_of_lt {a a' : List Char} (b b' : List Char)
    (hlen : a.length = a'.length) (h : a < a') : a ++ b < a' ++ b' := by
  induction a generalizing a' with
  | nil =>
    obtain rfl : a' = [] := by simpa using hlen.symm
    exact absurd h (List.lt_irrefl _)
  | cons x a ih =>
    cases a' with
    | nil => simp at hlen
    | cons y a' =>
      rw [List.cons_append, List.cons_append, List.cons_lt_cons_iff]
      rcases List.cons_lt_cons_iff.mp h with hxy | ⟨hxy, hlt⟩
      · exact .inl hxy
      · exact .inr ⟨hxy, ih (by simpa using hlen) hlt⟩

/-! ## Lists of digits -/

theorem toNat_of_isDigit {c : Char} (h : c.isDigit = true) : 48 ≤ c.toNat ∧ c.toNat ≤ 57 := by
  simp only [Char.isDigit, Bool.and_eq_true, decide_eq_true_eq, ge_iff_le, UInt32.le_iff_toNat_le] at h
  exact h

theorem ofDigitChars_cons_eq (c : Char) (l : List Char) :
    Nat.ofDigitChars 10 (c :: l) 0 = 10 ^ l.length * (c.toNat - 48) + Nat.ofDigitChars 10 l 0 := by
  rw [Nat.ofDigitChars_cons, Nat.ofDigitChars_eq_ofDigitChars_zero]
  simp

theorem ofDigitChars_lt {l : List Char} (h : ∀ c ∈ l, c.isDigit = true) :
    Nat.ofDigitChars 10 l 0 < 10 ^ l.length := by
  induction l with
  | nil => simp
  | cons c l ih =>
    have hc := toNat_of_isDigit (h c (by simp))
    have hl := ih fun d hd => h d (by simp [hd])
    rw [ofDigitChars_cons_eq, List.length_cons, Nat.pow_succ]
    have : 10 ^ l.length * (c.toNat - 48) ≤ 10 ^ l.length * 9 := Nat.mul_le_mul_left _ (by omega)
    omega

theorem lt_of_ofDigitChars_lt {l m : List Char} (hl : ∀ c ∈ l, c.isDigit = true)
    (hm : ∀ c ∈ m, c.isDigit = true) (hlen : l.length = m.length)
    (h : Nat.ofDigitChars 10 l 0 < Nat.ofDigitChars 10 m 0) : l < m := by
  induction l generalizing m with
  | nil =>
    obtain rfl : m = [] := by simpa using hlen.symm
    exact absurd h (Nat.lt_irrefl _)
  | cons c l ih =>
    cases m with
    | nil => simp at hlen
    | cons d m =>
      have hrest : l.length = m.length := by simpa using hlen
      have hc := toNat_of_isDigit (hl c (by simp))
      have hd := toNat_of_isDigit (hm d (by simp))
      have hl' := ofDigitChars_lt fun x hx => hl x (List.mem_cons_of_mem c hx)
      have hm' := ofDigitChars_lt fun x hx => hm x (List.mem_cons_of_mem d hx)
      rw [ofDigitChars_cons_eq, ofDigitChars_cons_eq, hrest] at h
      rw [hrest] at hl'
      rw [List.cons_lt_cons_iff]
      rcases Nat.lt_trichotomy c.toNat d.toNat with hcd | hcd | hcd
      · exact .inl hcd
      · have hcd' : c = d := Char.toNat_inj.mp hcd
        subst hcd'
        exact .inr ⟨rfl, ih (fun x hx => hl x (by simp [hx])) (fun x hx => hm x (by simp [hx]))
          hrest (by omega)⟩
      · -- a greater first digit outweighs all that follow
        have : 10 ^ m.length * (d.toNat - 48 + 1) ≤ 10 ^ m.length * (c.toNat - 48) :=
          Nat.mul_le_mul_left _ (by omega)
        rw [Nat.mul_add] at this
        omega

/-! ## Padded numbers -/

theorem toList_padded (width n : Nat) : (padded width n).toList =
    List.replicate (width - (Nat.toDigits 10 n).length) '0' ++ Nat.toDigits 10 n := by
  simp [padded]

theorem isDigit_of_mem_padded {width n : Nat} {c : Char} (h : c ∈ (padded width n).toList) :
    c.isDigit = true := by
  rw [toList_padded, List.mem_append] at h
  rcases h with h | h
  · rw [List.eq_of_mem_replicate h]
    decide
  · exact Nat.isDigit_of_mem_toDigits (by decide) (by decide) h

@[simp] theorem ofDigitChars_padded (width n : Nat) :
    Nat.ofDigitChars 10 (padded width n).toList 0 = n := by
  rw [toList_padded, Nat.ofDigitChars_append, Nat.ofDigitChars_replicate_zero, Nat.mul_zero,
    Nat.ofDigitChars_ten_toDigits]

theorem padded_injective {width m n : Nat} (h : padded width m = padded width n) : m = n := by
  rw [← ofDigitChars_padded width m, h, ofDigitChars_padded]

theorem length_padded {width n : Nat} (hw : 0 < width) (h : n < 10 ^ width) :
    (padded width n).toList.length = width := by
  have := (Nat.length_toDigits_le_iff (by decide) hw).mpr h
  rw [toList_padded, List.length_append, List.length_replicate]
  omega

/-- Numbers of one width are in the order of their texts. -/
theorem padded_lt {width m n : Nat} (hw : 0 < width) (hn : n < 10 ^ width) (h : m < n) :
    (padded width m).toList < (padded width n).toList := by
  apply lt_of_ofDigitChars_lt
  · exact fun c hc => isDigit_of_mem_padded hc
  · exact fun c hc => isDigit_of_mem_padded hc
  · rw [length_padded hw (by omega), length_padded hw hn]
  · rwa [ofDigitChars_padded, ofDigitChars_padded]

end LogPipeline
