import LogPipeline.Proofs.Text.Utf8

/-!
# Where the octets of a text can be cut

The octets of a text can be cut at their ends and in front of each octet that continues no
character. These are the places between two characters and no others (`isBoundary_utf8`). From any
offset there is such a place at or before it, and stepping back finds the nearest (`stepBack_spec`).
-/

namespace LogPipeline.Text

/-- Whether octets can be cut at an offset. -/
def isBoundary (bytes : Bytes) (i : Nat) : Bool :=
  i == 0 ||
  match bytes[i]? with
    | some b => !isTail b
    | none => i == bytes.length

/-- Steps back from an offset to one where the octets can be cut; there is no step below zero. -/
def stepBack (bytes : Bytes) : Nat → Option Nat
  | 0 => if isBoundary bytes 0 then some 0 else none
  | i + 1 => if isBoundary bytes (i + 1) then some (i + 1) else stepBack bytes i

/-- Octets as they are, if there is room for them, and otherwise cut where stepping back from the
end of the room leads. -/
def truncate? (bytes : Bytes) (room : Nat) : Option Bytes :=
  if bytes.length ≤ room then some bytes else (stepBack bytes room).map bytes.take

variable {bytes : Bytes} {i : Nat}

theorem length_utf8 (s : String) : (utf8 s).length = s.utf8ByteSize := by
  have hall : ∀ cs : List Char,
      (cs.flatMap String.utf8EncodeChar).length = (String.ofList cs).utf8ByteSize := by
    intro cs
    induction cs with
    | nil => rfl
    | cons c cs ih =>
      rw [List.flatMap_cons, List.length_append, ih, String.length_utf8EncodeChar,
        String.ofList_cons, String.utf8ByteSize_append, String.utf8ByteSize_singleton]
  rw [utf8, hall, String.ofList_toList]

/-! ## Between characters -/

/-- A character is an octet that continues none, and then octets that do. -/
theorem exists_lead (c : Char) : ∃ a tail, String.utf8EncodeChar c = a :: tail ∧
    isTail a = false ∧ ∀ b ∈ tail, isTail b = true := by
  have hnat : ∀ n < 256, (UInt8.ofNat n).toNat = n := fun n hn => by
    rw [UInt8.toNat_ofNat', Nat.mod_eq_of_lt hn]
  have hlead : ∀ n < 256, n < 0x80 ∨ 0xbf < n → isTail (UInt8.ofNat n) = false := fun n hn h => by
    rw [Bool.eq_false_iff, Ne, isTail_iff, hnat n hn]
    omega
  have htail : ∀ n, isTail (UInt8.ofNat (n % 64 + 128)) = true := fun n => by
    rw [isTail_iff, hnat _ (by omega)]
    omega
  unfold String.utf8EncodeChar
  dsimp only
  split_ifs
  all_goals
    refine ⟨_, _, rfl, hlead _ (by omega) (by omega), ?_⟩
    simp only [List.forall_mem_cons, htail, List.not_mem_nil, false_implies, implies_true, and_true]

/-- What stands behind a character is no rest of one. -/
theorem head_encode (cs : List Char) :
    ∀ b ∈ (cs.flatMap String.utf8EncodeChar).head?, isTail b = false := by
  cases cs with
  | nil => exact fun b hb => nomatch hb
  | cons c cs =>
    obtain ⟨a, tail, hencode, hlead, -⟩ := exists_lead c
    rw [List.flatMap_cons, hencode]
    rintro b ⟨⟩
    exact hlead

theorem isBoundary_zero (bytes : Bytes) : isBoundary bytes 0 = true := rfl

/-- Within a character nothing can be cut. -/
theorem isBoundary_inside (c : Char) (rest : Bytes) (hpos : 0 < i)
    (hi : i < (String.utf8EncodeChar c).length) :
    isBoundary (String.utf8EncodeChar c ++ rest) i = false := by
  obtain ⟨a, tail, hencode, -, htail⟩ := exists_lead c
  obtain ⟨k, rfl⟩ : ∃ k, i = k + 1 := ⟨i - 1, by omega⟩
  rw [hencode, List.length_cons, Nat.add_lt_add_iff_right] at hi
  have hoctet : (a :: tail ++ rest)[k + 1]? = some tail[k] := by
    rw [List.cons_append, List.getElem?_cons_succ, List.getElem?_append_left hi,
      List.getElem?_eq_getElem hi]
  rw [isBoundary, hencode, hoctet]
  simp [htail _ (List.getElem_mem hi)]

/-- In front of octets that begin with a character, those behind can be cut as they are by
themselves. -/
theorem isBoundary_behind {rest : Bytes} (hrest : ∀ b ∈ rest.head?, isTail b = false)
    (front : Bytes) (i : Nat) :
    isBoundary (front ++ rest) (front.length + i) = isBoundary rest i := by
  have hoctet : (front ++ rest)[front.length + i]? = rest[i]? := by
    rw [List.getElem?_append_right (Nat.le_add_right _ _), Nat.add_sub_cancel_left]
  rw [isBoundary, isBoundary, hoctet, List.length_append]
  cases i with
  | zero =>
    cases rest with
    | nil => simp
    | cons b rest => simp [hrest b rfl]
  | succ i =>
    rw [Bool.eq_iff_iff]
    cases rest[i + 1]? with
    | none => simp
    | some b => simp

/-- The octets of a text can be cut between two characters and nowhere else. -/
theorem isBoundary_iff {cs : List Char} : isBoundary (cs.flatMap String.utf8EncodeChar) i = true ↔
    ∃ before after, cs = before ++ after ∧
      (before.flatMap String.utf8EncodeChar).length = i := by
  constructor
  · intro h
    induction cs generalizing i with
    | nil =>
      obtain rfl : i = 0 := by
        simpa [isBoundary] using h
      exact ⟨[], [], rfl, rfl⟩
    | cons c cs ih =>
      rcases Nat.eq_zero_or_pos i with rfl | hpos
      · exact ⟨[], c :: cs, rfl, rfl⟩
      · rw [List.flatMap_cons] at h
        rcases Nat.lt_or_ge i (String.utf8EncodeChar c).length with hi | hi
        · rw [isBoundary_inside c _ hpos hi] at h
          exact nomatch h
        · obtain ⟨k, rfl⟩ := Nat.exists_eq_add_of_le hi
          rw [isBoundary_behind (head_encode cs)] at h
          obtain ⟨before, after, rfl, hlength⟩ := ih h
          exact ⟨c :: before, after, rfl, by rw [List.flatMap_cons, List.length_append, hlength]⟩
  · rintro ⟨before, after, rfl, rfl⟩
    rw [List.flatMap_append, ← Nat.add_zero (List.length _), isBoundary_behind (head_encode after),
      isBoundary_zero]

theorem isBoundary_utf8 {s : String} : isBoundary (utf8 s) i = true ↔
    ∃ before after, s = before ++ after ∧ (utf8 before).length = i := by
  rw [utf8, isBoundary_iff]
  constructor
  · rintro ⟨before, after, hs, rfl⟩
    refine ⟨String.ofList before, String.ofList after, ?_, by rw [utf8, String.toList_ofList]⟩
    rw [← String.ofList_append, ← hs, String.ofList_toList]
  · rintro ⟨before, after, rfl, rfl⟩
    exact ⟨before.toList, after.toList, String.toList_append, rfl⟩

/-! ## Stepping back -/

/-- Stepping back ends, at the nearest place where the octets can be cut. -/
theorem stepBack_spec (bytes : Bytes) (i : Nat) : ∃ j, stepBack bytes i = some j ∧ j ≤ i ∧
    isBoundary bytes j = true ∧ ∀ k ≤ i, isBoundary bytes k = true → k ≤ j := by
  induction i with
  | zero => exact ⟨0, rfl, Nat.le_refl 0, isBoundary_zero bytes, fun k hk _ => hk⟩
  | succ i ih =>
    rw [stepBack]
    split
    · rename_i h
      exact ⟨i + 1, rfl, Nat.le_refl _, h, fun k hk _ => hk⟩
    · rename_i h
      obtain ⟨j, hj, hle, hboundary, hnearest⟩ := ih
      refine ⟨j, hj, by omega, hboundary, fun k hk hkb => ?_⟩
      have hne : k ≠ i + 1 := fun heq => h (heq ▸ hkb)
      exact hnearest k (by omega) hkb

end LogPipeline.Text
