import LogPipeline.Text.Utf8
import Mathlib.Tactic.Common

/-!
# Texts as octets and back

The octets of a text encode that text and no other (`utf8Decode?_utf8`): each character is read off
the octets that it was written as, whatever comes behind them.
-/

namespace LogPipeline.Text

/-! ## Octets by their numbers -/

theorem isTail_iff (b : UInt8) : isTail b = true ↔ 0x80 ≤ b.toNat ∧ b.toNat ≤ 0xbf := by
  simp [isTail, UInt8.le_iff_toNat_le]

theorem opensThree_iff (a b : UInt8) : opensThree a b = true ↔
    a.toNat = 0xe0 ∧ 0xa0 ≤ b.toNat ∧ b.toNat ≤ 0xbf ∨
    (0xe1 ≤ a.toNat ∧ a.toNat ≤ 0xec ∨ 0xee ≤ a.toNat ∧ a.toNat ≤ 0xef) ∧
      0x80 ≤ b.toNat ∧ b.toNat ≤ 0xbf ∨
    a.toNat = 0xed ∧ 0x80 ≤ b.toNat ∧ b.toNat ≤ 0x9f := by
  simp only [opensThree, Bool.or_eq_true, Bool.and_eq_true, beq_iff_eq, decide_eq_true_eq,
    isTail_iff, UInt8.le_iff_toNat_le, ← UInt8.toNat_inj, UInt8.reduceToNat]
  omega

theorem opensFour_iff (a b : UInt8) : opensFour a b = true ↔
    a.toNat = 0xf0 ∧ 0x90 ≤ b.toNat ∧ b.toNat ≤ 0xbf ∨
    (0xf1 ≤ a.toNat ∧ a.toNat ≤ 0xf3) ∧ 0x80 ≤ b.toNat ∧ b.toNat ≤ 0xbf ∨
    a.toNat = 0xf4 ∧ 0x80 ≤ b.toNat ∧ b.toNat ≤ 0x8f := by
  simp only [opensFour, Bool.or_eq_true, Bool.and_eq_true, beq_iff_eq, decide_eq_true_eq,
    isTail_iff, UInt8.le_iff_toNat_le, ← UInt8.toNat_inj, UInt8.reduceToNat]
  omega

/-! ## One character -/

theorem utf8Head_one {a : UInt8} (h : a.toNat < 0x80) (rest : Bytes) :
    utf8Head a rest = (some (Char.ofNat a.toNat), 0) := by
  have hlt : a < 0x80 := by simpa [UInt8.lt_iff_toNat_lt] using h
  unfold utf8Head
  rw [if_pos hlt]

theorem utf8Head_two {a b : UInt8} (ha : 0xc2 ≤ a.toNat) (ha' : a.toNat ≤ 0xdf)
    (hb : isTail b = true) (rest : Bytes) :
    utf8Head a (b :: rest) = (some (assemble (a.toNat % 32) [b]), 1) := by
  have hlt : ¬ a < 0x80 := by
    simp only [UInt8.lt_iff_toNat_lt, UInt8.reduceToNat]
    omega
  have hlead : (0xc2 ≤ a ∧ a ≤ 0xdf) := by
    simp only [UInt8.le_iff_toNat_le, UInt8.reduceToNat]
    exact ⟨ha, ha'⟩
  simp [utf8Head, hlt, hlead, hb]

theorem utf8Head_three {a b c : UInt8} (hab : opensThree a b = true) (hc : isTail c = true)
    (rest : Bytes) :
    utf8Head a (b :: c :: rest) = (some (assemble (a.toNat % 16) [b, c]), 2) := by
  have hlead := (opensThree_iff a b).mp hab
  have hlt : ¬ a < 0x80 := by
    simp only [UInt8.lt_iff_toNat_lt, UInt8.reduceToNat]
    omega
  have htwo : ¬ a ≤ 0xdf := by
    simp only [UInt8.le_iff_toNat_le, UInt8.reduceToNat]
    omega
  simp [utf8Head, hlt, htwo, hab, hc]

theorem utf8Head_four {a b c d : UInt8} (hab : opensFour a b = true) (hc : isTail c = true)
    (hd : isTail d = true) (rest : Bytes) :
    utf8Head a (b :: c :: d :: rest) = (some (assemble (a.toNat % 8) [b, c, d]), 3) := by
  have hlead := (opensFour_iff a b).mp hab
  have hlt : ¬ a < 0x80 := by
    simp only [UInt8.lt_iff_toNat_lt, UInt8.reduceToNat]
    omega
  have htwo : ¬ a ≤ 0xdf := by
    simp only [UInt8.le_iff_toNat_le, UInt8.reduceToNat]
    omega
  have hthree : ¬ opensThree a b = true := by
    rw [opensThree_iff]
    omega
  simp [utf8Head, hlt, htwo, hthree, hab, hc, hd]

/-- A character is read off the octets that it is written as. -/
theorem utf8Head_encode (c : Char) (rest : Bytes) : ∃ a tail,
    String.utf8EncodeChar c = a :: tail ∧ utf8Head a (tail ++ rest) = (some c, tail.length) := by
  obtain ⟨v, hv⟩ : ∃ v, v = c.toNat := ⟨_, rfl⟩
  have hvalid : v < 0xd800 ∨ 0xdfff < v ∧ v < 0x110000 := hv ▸ c.valid
  have hof : ∀ n, n = v → Char.ofNat n = c := fun n hn => by rw [hn, hv, Char.ofNat_toNat]
  have hnat : ∀ n, n < 256 → (UInt8.ofNat n).toNat = n := fun n hn => by
    rw [UInt8.toNat_ofNat', Nat.mod_eq_of_lt hn]
  have htail : ∀ n, n < 64 → isTail (UInt8.ofNat (n + 128)) = true := fun n hn => by
    rw [isTail_iff, hnat _ (by omega)]
    omega
  unfold String.utf8EncodeChar
  rw [show c.val.toNat = v from hv.symm]
  dsimp only
  split_ifs with h₁ h₂ h₃
  · refine ⟨_, _, rfl, (utf8Head_one ?_ _).trans ?_⟩
    · rw [hnat v (by omega)]
      omega
    · rw [hof _ (hnat v (by omega))]
      rfl
  · have ha := hnat (v / 64 % 32 + 192) (by omega)
    have hb := hnat (v % 64 + 128) (by omega)
    refine ⟨_, _, rfl, (utf8Head_two ?_ ?_ (htail _ (by omega)) _).trans ?_⟩
    · omega
    · omega
    · rw [assemble, List.foldl_cons, List.foldl_nil, ha, hb, hof _ (by omega)]
      rfl
  · have ha := hnat (v / 4096 % 16 + 224) (by omega)
    have hb := hnat (v / 64 % 64 + 128) (by omega)
    have hc := hnat (v % 64 + 128) (by omega)
    refine ⟨_, _, rfl, (utf8Head_three ?_ (htail _ (by omega)) _).trans ?_⟩
    · rw [opensThree_iff, ha, hb]
      omega
    · rw [assemble, List.foldl_cons, List.foldl_cons, List.foldl_nil, ha, hb, hc,
        hof _ (by omega)]
      rfl
  · have ha := hnat (v / 262144 % 8 + 240) (by omega)
    have hb := hnat (v / 4096 % 64 + 128) (by omega)
    have hc := hnat (v / 64 % 64 + 128) (by omega)
    have hd := hnat (v % 64 + 128) (by omega)
    refine ⟨_, _, rfl, (utf8Head_four ?_ (htail _ (by omega)) (htail _ (by omega)) _).trans ?_⟩
    · rw [opensFour_iff, ha, hb]
      omega
    · rw [assemble, List.foldl_cons, List.foldl_cons, List.foldl_cons, List.foldl_nil, ha, hb, hc,
        hd, hof _ (by omega)]
      rfl

/-! ## Texts -/

theorem utf8ScanFrom_skip (tail rest : Bytes) :
    utf8ScanFrom tail.length (tail ++ rest) = utf8ScanFrom 0 rest := by
  induction tail with
  | nil => rfl
  | cons b tail ih => exact ih

theorem utf8ScanFrom_encode (cs : List Char) :
    utf8ScanFrom 0 (cs.flatMap String.utf8EncodeChar) = cs.map some := by
  induction cs with
  | nil => rfl
  | cons c cs ih =>
    obtain ⟨a, tail, hencode, hhead⟩ := utf8Head_encode c (cs.flatMap String.utf8EncodeChar)
    rw [List.flatMap_cons, hencode, List.cons_append, utf8ScanFrom, hhead, utf8ScanFrom_skip, ih,
      List.map_cons]

/-- A text is read back from its octets. -/
theorem utf8Decode?_utf8 (s : String) : utf8Decode? (utf8 s) = some s := by
  have hall : ∀ cs : List Char, (cs.map some).mapM id = some cs := by
    intro cs
    induction cs with
    | nil => rfl
    | cons c cs ih => simp [List.mapM_cons, ih]
  rw [utf8Decode?, utf8Scan, utf8, utf8ScanFrom_encode, hall, Option.map_some, String.ofList_toList]

theorem utf8Lossy_utf8 (s : String) : utf8Lossy (utf8 s) = s := by
  rw [utf8Lossy, utf8Scan, utf8, utf8ScanFrom_encode, List.map_map]
  simp [Function.comp_def]

theorem utf8_append (s t : String) : utf8 (s ++ t) = utf8 s ++ utf8 t := by
  rw [utf8, String.toList_append, List.flatMap_append, utf8, utf8]

/-! ## Octets of ASCII -/

/-- No other character has an octet of ASCII among its own. -/
theorem ascii_mem_utf8EncodeChar {b : UInt8} (hb : b.toNat < 0x80) {c : Char} :
    b ∈ String.utf8EncodeChar c ↔ c.toNat = b.toNat := by
  have hvalid : c.toNat < 0xd800 ∨ 0xdfff < c.toNat ∧ c.toNat < 0x110000 := c.valid
  have hoctet : ∀ n < 256, b = UInt8.ofNat n ↔ n = b.toNat := by
    intro n hn
    rw [← UInt8.toNat_inj, UInt8.toNat_ofNat', Nat.mod_eq_of_lt hn]
    exact eq_comm
  unfold String.utf8EncodeChar
  rw [show c.val.toNat = c.toNat from rfl]
  dsimp only
  split_ifs <;> simp only [List.mem_cons, List.not_mem_nil, or_false]
  · rw [hoctet _ (by omega)]
  · rw [hoctet _ (by omega), hoctet _ (by omega)]
    omega
  · rw [hoctet _ (by omega), hoctet _ (by omega), hoctet _ (by omega)]
    omega
  · rw [hoctet _ (by omega), hoctet _ (by omega), hoctet _ (by omega), hoctet _ (by omega)]
    omega

theorem ascii_mem_utf8 {c : Char} (hc : c.toNat < 0x80) {s : String} :
    UInt8.ofNat c.toNat ∈ utf8 s ↔ c ∈ s.toList := by
  have hoctet : (UInt8.ofNat c.toNat).toNat = c.toNat := by
    rw [UInt8.toNat_ofNat', Nat.mod_eq_of_lt (by omega)]
  have hchar : ∀ d : Char, UInt8.ofNat c.toNat ∈ String.utf8EncodeChar d ↔ d = c := fun d => by
    rw [ascii_mem_utf8EncodeChar (by omega), hoctet, Char.toNat_inj]
  simp [utf8, hchar]

/-- The octet that ends a line. -/
def newline : UInt8 := 0x0a

theorem newline_mem_utf8 {s : String} : newline ∈ utf8 s ↔ '\n' ∈ s.toList :=
  ascii_mem_utf8 (c := '\n') (by decide)

end LogPipeline.Text
