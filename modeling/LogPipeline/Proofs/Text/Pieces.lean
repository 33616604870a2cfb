import LogPipeline.Proofs.Text.Utf8

/-!
# Pieces of a text and of its octets

An octet of ASCII is never part of another character. So where an ASCII text stands in the octets of
a text, the text can be cut there (`exists_pieces`), and it stands in the text itself
(`utf8_infix_iff`).
-/

namespace LogPipeline.Text

variable {s p : String} {b a : Bytes} {x : UInt8}

theorem utf8_ofList (cs : List Char) :
    utf8 (String.ofList cs) = cs.flatMap String.utf8EncodeChar := by
  rw [utf8, String.toList_ofList]

/-- Whatever is in lists with a separator between them is in the separator or in one of the lists.
-/
theorem mem_intercalate {α : Type} {y : α} {separator : List α} {ls : List (List α)}
    (h : y ∈ separator.intercalate ls) : y ∈ separator ∨ ∃ l ∈ ls, y ∈ l := by
  induction ls with
  | nil => simp [List.intercalate] at h
  | cons l ls ih =>
    cases ls with
    | nil => exact .inr ⟨l, by simp, by simpa [List.intercalate] using h⟩
    | cons l' ls =>
      rw [List.intercalate_cons_cons, List.mem_append, List.mem_append] at h
      rcases h with (h | h) | h
      · exact .inr ⟨l, by simp, h⟩
      · exact .inl h
      · rcases ih h with h | ⟨m, hm, h⟩
        · exact .inl h
        · exact .inr ⟨m, List.mem_cons_of_mem _ hm, h⟩

/-- The octets of texts with a separator between them. -/
theorem utf8_intercalate (separator : String) (parts : List String) :
    utf8 (separator.intercalate parts) = (utf8 separator).intercalate (parts.map utf8) := by
  have hlist : ∀ ls : List (List Char),
      (separator.toList.intercalate ls).flatMap String.utf8EncodeChar =
        (utf8 separator).intercalate (ls.map (List.flatMap String.utf8EncodeChar)) := by
    intro ls
    induction ls with
    | nil => rfl
    | cons l ls ih =>
      cases ls with
      | nil => simp [List.intercalate]
      | cons l' ls =>
        rw [List.intercalate_cons_cons, List.flatMap_append, List.flatMap_append, ih]
        simp only [List.map_cons, List.intercalate_cons_cons]
        rfl
  rw [utf8, String.toList_intercalate, hlist, List.map_map]
  rfl

theorem utf8EncodeChar_ascii {c : Char} (hc : c.toNat < 0x80) :
    String.utf8EncodeChar c = [UInt8.ofNat c.toNat] := by
  unfold String.utf8EncodeChar
  rw [show c.val.toNat = c.toNat from rfl]
  dsimp only
  rw [if_pos (by omega)]

/-- A character with an octet of ASCII is that octet. -/
theorem utf8EncodeChar_eq_of_mem (hx : x.toNat < 0x80) {c : Char}
    (h : x ∈ String.utf8EncodeChar c) : String.utf8EncodeChar c = [x] := by
  have hc := (ascii_mem_utf8EncodeChar hx).mp h
  rw [utf8EncodeChar_ascii (by omega), hc, UInt8.ofNat_toNat]

/-- Octets can be cut before one of ASCII. -/
theorem exists_cut (hx : x.toNat < 0x80) {cs : List Char}
    (h : cs.flatMap String.utf8EncodeChar = b ++ x :: a) :
    ∃ before after, cs = before ++ after ∧ before.flatMap String.utf8EncodeChar = b ∧
      after.flatMap String.utf8EncodeChar = x :: a := by
  induction cs generalizing b with
  | nil => exact absurd h (by simp)
  | cons c cs ih =>
    cases b with
    | nil => exact ⟨[], c :: cs, rfl, rfl, h⟩
    | cons y b =>
      rw [List.flatMap_cons, List.append_eq_append_iff] at h
      rcases h with ⟨b', hb, hrest⟩ | ⟨more, hfirst, hmore⟩
      · obtain ⟨before, after, rfl, rfl, hafter⟩ := ih hrest
        exact ⟨c :: before, after, rfl, hb.symm, hafter⟩
      · cases more with
        | nil => exact ⟨[c], cs, rfl, by simp [hfirst], hmore.symm⟩
        | cons z more =>
          -- a character with this octet has no other
          obtain ⟨rfl, -⟩ := List.cons.inj hmore
          have hc := utf8EncodeChar_eq_of_mem hx (hfirst ▸ List.mem_append_right _ List.mem_cons_self)
          rw [hc] at hfirst
          exact absurd (congrArg List.length hfirst) (by simp)

/-- Octets that begin with those of an ASCII text are those of a text that begins with it. -/
theorem exists_rest {cs ps : List Char} (hp : ∀ c ∈ ps, c.toNat < 0x80)
    (h : cs.flatMap String.utf8EncodeChar = ps.flatMap String.utf8EncodeChar ++ a) :
    ∃ after, cs = ps ++ after ∧ after.flatMap String.utf8EncodeChar = a := by
  induction ps generalizing cs with
  | nil => exact ⟨cs, rfl, h⟩
  | cons c ps ih =>
    obtain ⟨hc, hps⟩ := List.forall_mem_cons.mp hp
    cases cs with
    | nil => simp [utf8EncodeChar_ascii hc] at h
    | cons d cs =>
      have hoctet : (UInt8.ofNat c.toNat).toNat = c.toNat := by
        rw [UInt8.toNat_ofNat', Nat.mod_eq_of_lt (by omega)]
      rw [List.flatMap_cons, List.flatMap_cons, utf8EncodeChar_ascii hc, List.append_assoc,
        List.singleton_append] at h
      have hmem : UInt8.ofNat c.toNat ∈ String.utf8EncodeChar d := by
        cases hd : String.utf8EncodeChar d with
        | nil => exact absurd hd (by simp [String.utf8EncodeChar]; split_ifs <;> simp)
        | cons y more =>
          rw [hd, List.cons_append] at h
          rw [(List.cons.inj h).1]
          exact List.mem_cons_self
      obtain rfl : d = c := by
        rw [ascii_mem_utf8EncodeChar (by omega), hoctet] at hmem
        exact Char.toNat_inj.mp hmem
      rw [utf8EncodeChar_ascii hc, List.singleton_append] at h
      obtain ⟨after, rfl, hafter⟩ := ih hps (List.cons.inj h).2
      exact ⟨after, rfl, hafter⟩

/-- Where an ASCII text stands in the octets of a text, the text can be cut around it. -/
theorem exists_pieces (hp : ∀ c ∈ p.toList, c.toNat < 0x80) (hne : p ≠ "")
    (h : utf8 s = b ++ utf8 p ++ a) :
    ∃ before after, s = before ++ p ++ after ∧ utf8 before = b ∧ utf8 after = a := by
  obtain ⟨c, ps, hcs⟩ : ∃ c ps, p.toList = c :: ps :=
    List.exists_cons_of_ne_nil fun hnil => hne (String.toList_eq_nil_iff.mp hnil)
  have hc : c.toNat < 0x80 := hp c (hcs ▸ List.mem_cons_self)
  have hfirst : utf8 p ++ a =
      UInt8.ofNat c.toNat :: (ps.flatMap String.utf8EncodeChar ++ a) := by
    rw [utf8, hcs, List.flatMap_cons, utf8EncodeChar_ascii hc]
    rfl
  have hoctet : (UInt8.ofNat c.toNat).toNat < 0x80 := by
    rw [UInt8.toNat_ofNat', Nat.mod_eq_of_lt (by omega)]
    exact hc
  rw [List.append_assoc, hfirst] at h
  obtain ⟨before, rest, hcut, hbefore, hrest⟩ := exists_cut hoctet h
  obtain ⟨after, rfl, hafter⟩ := exists_rest hp (hrest.trans hfirst.symm)
  refine ⟨String.ofList before, String.ofList after, ?_, ?_, ?_⟩
  · rw [← String.toList_inj]
    simpa using hcut
  · rw [utf8_ofList, hbefore]
  · rw [utf8_ofList, hafter]

/-- An ASCII text stands in the octets of a text exactly if it stands in the text. -/
theorem utf8_infix_iff (hp : ∀ c ∈ p.toList, c.toNat < 0x80) (hne : p ≠ "") :
    utf8 p <:+: utf8 s ↔ p.toList <:+: s.toList := by
  constructor
  · rintro ⟨b, a, h⟩
    obtain ⟨before, after, rfl, -, -⟩ := exists_pieces hp hne h.symm
    exact ⟨before.toList, after.toList, by simp⟩
  · rintro ⟨before, after, h⟩
    refine ⟨before.flatMap String.utf8EncodeChar, after.flatMap String.utf8EncodeChar, ?_⟩
    rw [utf8, utf8, ← h, List.flatMap_append, List.flatMap_append]

end LogPipeline.Text
