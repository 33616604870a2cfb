import LogPipeline.Text.Quoted
import Mathlib.Tactic.Common

/-!
# Reading quoted text

What stands between quotes is read back, whatever characters it holds and whatever comes behind the
closing quote (`unquote_escaped`).
-/

namespace LogPipeline.Text

/-- Where a reader stands between the quotes: before a character, behind a backslash, behind the
letter that announces a number, or in that number. -/
inductive Quoting where
  | plain
  | escape
  | opening
  | number (n : Nat)

/-- The value of a hexadecimal digit in lower case. -/
def hexValue (c : Char) : Nat := if c.isDigit then c.toNat - 48 else c.toNat - 87

/-- The character that a letter behind a backslash stands for. -/
def unescape : Char → Char
  | '0' => '\x00'
  | 't' => '\t'
  | 'r' => '\r'
  | 'n' => '\n'
  | c => c

/-- Reads up to the closing quote: the characters, and what comes behind the quote. -/
def unquote : Quoting → List Char → Option (List Char × List Char)
  | _, [] => none
  | .plain, '"' :: rest => some ([], rest)
  | .plain, '\\' :: rest => unquote .escape rest
  | .plain, c :: rest => (unquote .plain rest).map fun p => (c :: p.1, p.2)
  | .escape, 'u' :: rest => unquote .opening rest
  | .escape, c :: rest => (unquote .plain rest).map fun p => (unescape c :: p.1, p.2)
  | .opening, _ :: rest => unquote (.number 0) rest
  | .number n, '\x7d' :: rest => (unquote .plain rest).map fun p => (Char.ofNat n :: p.1, p.2)
  | .number n, c :: rest => unquote (.number (n * 16 + hexValue c)) rest

variable {c : Char} {rest : List Char}

/-! ## Numbers -/

theorem hexValue_digitChar {d : Nat} (h : d < 16) : hexValue d.digitChar = d := by
  revert d
  decide

theorem digitChar_ne_brace {d : Nat} (h : d < 16) : d.digitChar ≠ '\x7d' := by
  revert d
  decide

theorem mem_hexDigits {n : Nat} (h : c ∈ hexDigits n) : ∃ d < 16, c = d.digitChar := by
  induction n using Nat.strongRecOn with
  | ind n ih =>
    unfold hexDigits at h
    rcases Nat.lt_or_ge n 16 with hlt | hge
    · rw [Nat.toDigits_of_lt_base hlt, List.mem_singleton] at h
      exact ⟨n, hlt, h⟩
    · rw [Nat.toDigits_of_base_le (by decide) hge, List.mem_append, List.mem_singleton] at h
      rcases h with h | h
      · exact ih (n / 16) (by omega) h
      · exact ⟨n % 16, Nat.mod_lt _ (by decide), h⟩

theorem space_le_digitChar {d : Nat} (h : d < 16) : 0x20 ≤ d.digitChar.toNat := by
  revert d
  decide

theorem unquote_digit (n : Nat) {d : Nat} (h : d < 16) (rest : List Char) :
    unquote (.number n) (d.digitChar :: rest) = unquote (.number (n * 16 + d)) rest := by
  rw [unquote, hexValue_digitChar h]
  exact digitChar_ne_brace h

/-- The digits of a number are read as that number. -/
theorem unquote_hexDigits (m : Nat) (rest : List Char) :
    unquote (.number 0) (hexDigits m ++ rest) = unquote (.number m) rest := by
  induction m using Nat.strongRecOn generalizing rest with
  | ind m ih =>
    unfold hexDigits
    rcases Nat.lt_or_ge m 16 with hlt | hge
    · rw [Nat.toDigits_of_lt_base hlt, List.singleton_append, unquote_digit 0 hlt, Nat.zero_mul,
        Nat.zero_add]
    · rw [Nat.toDigits_of_base_le (by decide) hge, List.append_assoc, List.singleton_append]
      have hfirst := ih (m / 16) (by omega) ((m % 16).digitChar :: rest)
      rw [hexDigits] at hfirst
      rw [hfirst, unquote_digit _ (Nat.mod_lt _ (by decide)), Nat.div_add_mod']

/-! ## Characters -/

theorem unquote_plain (hquote : c ≠ '"') (hslash : c ≠ '\\') (rest : List Char) :
    unquote .plain (c :: rest) = (unquote .plain rest).map fun p => (c :: p.1, p.2) := by
  rw [unquote]
  · exact hquote
  · exact hslash

/-- What one character stands as is read as that character. -/
theorem unquote_escapeChar (c : Char) (rest : List Char) :
    unquote .plain (escapeChar c ++ rest) =
      (unquote .plain rest).map fun p => (c :: p.1, p.2) := by
  unfold escapeChar
  split
  · rfl
  · rfl
  · rfl
  · rfl
  · rfl
  · rfl
  · rename_i hquote hslash
    split_ifs
    · exact unquote_plain hquote hslash rest
    · show unquote .plain ('\\' :: 'u' :: '\x7b' :: (hexDigits c.toNat ++ ['\x7d']) ++ rest) = _
      simp only [List.cons_append, List.append_assoc, List.nil_append, unquote,
        unquote_hexDigits, Char.ofNat_toNat]

/-- **Quoted text is read back.** -/
theorem unquote_escaped (cs rest : List Char) :
    unquote .plain (cs.flatMap escapeChar ++ '"' :: rest) = some (cs, rest) := by
  induction cs with
  | nil => rw [List.flatMap_nil, List.nil_append, unquote]
  | cons c cs ih =>
    rw [List.flatMap_cons, List.append_assoc, unquote_escapeChar, ih, Option.map_some]

theorem newline_not_mem_escapeChar (c : Char) : '\n' ∉ escapeChar c := by
  unfold escapeChar
  split
  · decide
  · decide
  · decide
  · decide
  · decide
  · decide
  · rename_i hnewline _ _
    split_ifs
    · exact fun h => hnewline (List.mem_singleton.mp h).symm
    · intro h
      rcases List.mem_append.mp h with h | h
      · rcases List.mem_append.mp h with h | h
        · exact absurd h (by decide)
        · obtain ⟨d, hd, heq⟩ := mem_hexDigits h
          exact absurd (heq ▸ space_le_digitChar hd) (by decide)
      · exact absurd h (by decide)

/-- **Quoted text is on one line.** -/
theorem newline_not_mem_quote (s : String) : '\n' ∉ (quote s).toList := by
  rw [quote, String.toList_ofList]
  simp [newline_not_mem_escapeChar]

/-- What comes behind the closing quote is shorter than the whole. -/
theorem length_of_unquote {q : Quoting} {cs text after : List Char}
    (h : unquote q cs = some (text, after)) : after.length < cs.length := by
  have hmap : ∀ {c : Char} {result : Option (List Char × List Char)} {text : List Char},
      (result.map fun p => (c :: p.1, p.2)) = some (text, after) →
      ∃ text', result = some (text', after) := by
    intro c result text hr
    obtain ⟨⟨text', after'⟩, hresult, heq⟩ := Option.map_eq_some_iff.mp hr
    obtain rfl : after' = after := congrArg Prod.snd heq
    exact ⟨text', hresult⟩
  fun_induction unquote q cs generalizing text with
  | case1 => cases h
  | case2 rest =>
    obtain rfl : rest = after := congrArg Prod.snd (Option.some.inj h)
    exact Nat.lt_succ_self _
  | case3 rest ih => exact Nat.lt_succ_of_lt (ih h)
  | case4 c rest _ _ ih =>
    obtain ⟨text', hrest⟩ := hmap h
    exact Nat.lt_succ_of_lt (ih hrest)
  | case5 rest ih => exact Nat.lt_succ_of_lt (ih h)
  | case6 c rest _ ih =>
    obtain ⟨text', hrest⟩ := hmap h
    exact Nat.lt_succ_of_lt (ih hrest)
  | case7 c rest ih => exact Nat.lt_succ_of_lt (ih h)
  | case8 n rest ih =>
    obtain ⟨text', hrest⟩ := hmap h
    exact Nat.lt_succ_of_lt (ih hrest)
  | case9 n c rest _ ih => exact Nat.lt_succ_of_lt (ih h)

end LogPipeline.Text
