import LogPipeline.Proofs.Text.Utf8

/-!
# The order of texts

Texts are ordered by their characters, and so are their octets (`utf8_le_iff`): of two characters
the greater one has the greater octets.
-/

namespace LogPipeline.Text

variable {c d : Char} {cs ds : List Char} {s t : String}

theorem encode_lt (h : c < d) (xs ys : Bytes) :
    String.utf8EncodeChar c ++ xs < String.utf8EncodeChar d ++ ys := by
  have hlt : c.toNat < d.toNat := h
  have hc : c.toNat < 0xd800 ∨ 0xdfff < c.toNat ∧ c.toNat < 0x110000 := c.valid
  have hd : d.toNat < 0xd800 ∨ 0xdfff < d.toNat ∧ d.toNat < 0x110000 := d.valid
  unfold String.utf8EncodeChar
  rw [show c.val.toNat = c.toNat from rfl, show d.val.toNat = d.toNat from rfl]
  dsimp only
  generalize c.toNat = n at *
  generalize d.toNat = m at *
  have hsecond : ∀ k : Nat, k / 4096 = k / 64 / 64 := fun k => by omega
  have hthird : ∀ k : Nat, k / 262144 = k / 64 / 64 / 64 := fun k => by omega
  -- what comes behind decides only where all octets agree, and they do not
  by_cases hbehind : xs < ys <;> split_ifs <;>
    simp only [List.cons_append, List.nil_append, List.cons_lt_cons_iff, UInt8.lt_iff_toNat_lt,
      ← UInt8.toNat_inj, UInt8.toNat_ofNat', hsecond, hthird, hbehind, and_true, and_false,
      or_false] <;> omega

/-- Greater texts have greater octets. -/
theorem encode_mono (h : cs < ds) :
    cs.flatMap String.utf8EncodeChar < ds.flatMap String.utf8EncodeChar := by
  induction cs generalizing ds with
  | nil =>
    cases ds with
    | nil => exact absurd h (List.lt_irrefl [])
    | cons d ds =>
      obtain ⟨a, tail, hencode, -⟩ := utf8Head_encode d []
      rw [List.flatMap_cons, hencode]
      exact List.nil_lt_cons _ _
  | cons c cs ih =>
    cases ds with
    | nil => exact absurd h (List.not_lt_nil _)
    | cons d ds =>
      rw [List.flatMap_cons, List.flatMap_cons]
      rcases List.cons_lt_cons_iff.mp h with hlt | ⟨rfl, hlt⟩
      · exact encode_lt hlt _ _
      · exact List.append_left_lt (ih hlt)

theorem utf8_lt_of_lt (h : s < t) : utf8 s < utf8 t := encode_mono (String.lt_iff.mp h)

/-- **The order of texts is that of their octets.** -/
theorem utf8_le_iff : utf8 s ≤ utf8 t ↔ s ≤ t := by
  constructor
  · exact fun h => String.not_lt.mp fun hlt => List.not_lt.mpr h (utf8_lt_of_lt hlt)
  · intro h
    by_cases hlt : s < t
    · exact List.le_of_lt (utf8_lt_of_lt hlt)
    · rw [String.le_antisymm h (String.not_lt.mp hlt)]
      exact List.le_refl _

end LogPipeline.Text
