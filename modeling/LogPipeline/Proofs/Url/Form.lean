import LogPipeline.Proofs.Text.Pieces
import LogPipeline.Url.Form

/-!
# Forms read back

A form gives back the pairs that it was written from, whatever characters their names and values
hold (`formPairs_formQuery`). First a single octet is read back, then a character, a name or value,
and last the pairs between their separators.
-/

namespace LogPipeline.Url

variable {c : Char} {s : String} {reserved : Char → Bool} {cs : List Char}

/-! ## Percent encoding -/

theorem upperHexDigit_isAlphanum : ∀ {n : Nat}, n < 16 → (upperHexDigit n).isAlphanum = true := by
  decide

theorem hexValue?_upperHexDigit :
    ∀ {n : Nat}, n < 16 → hexValue? (UInt8.ofNat (upperHexDigit n).toNat) = some n := by
  decide

theorem isAlphanum_toNat (h : c.isAlphanum = true) : 48 ≤ c.toNat ∧ c.toNat ≤ 57 ∨
    65 ≤ c.toNat ∧ c.toNat ≤ 90 ∨ 97 ≤ c.toNat ∧ c.toNat ≤ 122 := by
  rcases Bool.or_eq_true_iff.mp h with h | hdigit
  · rcases Bool.or_eq_true_iff.mp h with hupper | hlower
    · exact .inr (.inl (of_decide_eq_true hupper))
    · obtain ⟨hleast, hgreatest⟩ := Bool.and_eq_true_iff.mp hlower
      exact .inr (.inr ⟨of_decide_eq_true hleast, of_decide_eq_true hgreatest⟩)
  · obtain ⟨hleast, hgreatest⟩ := Bool.and_eq_true_iff.mp hdigit
    exact .inl ⟨of_decide_eq_true hleast, of_decide_eq_true hgreatest⟩

/-- What is written for a reserved character: a percent sign and hexadecimal digits. -/
theorem mem_percentOctet {b : UInt8} (h : c ∈ percentOctet b) : c = '%' ∨ c.isAlphanum = true := by
  have hb := b.toNat_lt
  simp only [percentOctet, List.mem_cons, List.not_mem_nil, or_false] at h
  rcases h with rfl | rfl | rfl
  · exact .inl rfl
  · exact .inr (upperHexDigit_isAlphanum (by omega))
  · exact .inr (upperHexDigit_isAlphanum (by omega))

theorem mem_percentChar {d : Char} (h : c ∈ percentChar reserved d) :
    c = d ∧ reserved c = false ∨ c = '%' ∨ c.isAlphanum = true := by
  unfold percentChar at h
  split at h
  · obtain ⟨b, -, hb⟩ := List.mem_flatMap.mp h
    exact .inr (mem_percentOctet hb)
  · rename_i hreserved
    obtain rfl := List.mem_singleton.mp h
    exact .inl ⟨rfl, by simpa using hreserved⟩

/-- A character of percent-encoded text is one that was not reserved, or belongs to an escape. -/
theorem mem_percentEncode (h : c ∈ percentEncode reserved cs) :
    c ∈ cs ∧ reserved c = false ∨ c = '%' ∨ c.isAlphanum = true := by
  obtain ⟨d, hd, hc⟩ := List.mem_flatMap.mp h
  rcases mem_percentChar hc with ⟨rfl, hreserved⟩ | hescape
  · exact .inl ⟨hd, hreserved⟩
  · exact .inr hescape

/-- Where nothing is reserved, percent encoding changes nothing. -/
theorem percentEncode_of_unreserved (h : ∀ c ∈ cs, reserved c = false) :
    percentEncode reserved cs = cs := by
  induction cs with
  | nil => rfl
  | cons c cs ih =>
    obtain ⟨hc, hcs⟩ := List.forall_mem_cons.mp h
    have hchar : percentChar reserved c = [c] := by simp [percentChar, hc]
    rw [percentEncode, List.flatMap_cons, hchar, ← percentEncode, ih hcs]
    rfl

theorem percentDecode_plain {b : UInt8} (h : b ≠ 0x25) (rest : Bytes) :
    percentDecode (b :: rest) = b :: percentDecode rest := by
  match rest with
  | [] => rfl
  | [_] => rfl
  | _ :: _ :: _ => rw [percentDecode, if_neg (by simpa using h)]

theorem isAlphanum_octet (h : c.isAlphanum = true) :
    String.utf8EncodeChar c = [UInt8.ofNat c.toNat] ∧ (UInt8.ofNat c.toNat).toNat = c.toNat := by
  have hascii := isAlphanum_toNat h
  refine ⟨Text.utf8EncodeChar_ascii (by omega), ?_⟩
  rw [UInt8.toNat_ofNat', Nat.mod_eq_of_lt (by omega)]

theorem percentDecode_percentOctet (b : UInt8) (rest : Bytes) :
    percentDecode ((percentOctet b).flatMap String.utf8EncodeChar ++ rest) =
      b :: percentDecode rest := by
  have hb := b.toNat_lt
  have hhigh : b.toNat / 16 < 16 := by omega
  have hlow : b.toNat % 16 < 16 := by omega
  have hescape : (percentOctet b).flatMap String.utf8EncodeChar =
      [0x25, UInt8.ofNat (upperHexDigit (b.toNat / 16)).toNat,
        UInt8.ofNat (upperHexDigit (b.toNat % 16)).toNat] := by
    rw [percentOctet, List.flatMap_cons, List.flatMap_cons, List.flatMap_singleton,
      (isAlphanum_octet (upperHexDigit_isAlphanum hhigh)).1,
      (isAlphanum_octet (upperHexDigit_isAlphanum hlow)).1]
    rfl
  rw [hescape]
  simp only [List.cons_append, List.nil_append, percentDecode, beq_self_eq_true, if_true,
    hexValue?_upperHexDigit hhigh, hexValue?_upperHexDigit hlow]
  rw [Nat.div_add_mod', UInt8.ofNat_toNat]

/-! ## Names and values -/

/-- An octet of a form, where a plus sign stands for a space. -/
def plusAsSpace (b : UInt8) : UInt8 := if b == 0x2b then 0x20 else b

/-- A character as it is written in a form. -/
def formChar (c : Char) : List Char :=
  if c == ' ' then ['+'] else percentChar (fun c => !plainInForm c) c

theorem formDecode_eq (bytes : Bytes) :
    formDecode bytes = Text.utf8Lossy (percentDecode (bytes.map plusAsSpace)) := rfl

theorem formEncode_eq (s : String) : formEncode s = String.ofList (s.toList.flatMap formChar) := rfl

/-- What a form is written with between its separators. -/
def inForm (c : Char) : Prop := plainInForm c = true ∨ c = '+' ∨ c = '%'

theorem inForm_of_mem_formChar {d : Char} (h : c ∈ formChar d) : inForm c := by
  unfold formChar at h
  split at h
  · exact .inr (.inl (List.mem_singleton.mp h))
  · rcases mem_percentChar h with ⟨-, hplain⟩ | rfl | halphanum
    · exact .inl (by simpa using hplain)
    · exact .inr (.inr rfl)
    · exact .inl (by simp [plainInForm, halphanum])

theorem plainInForm_toNat (h : plainInForm c = true) :
    c.toNat < 0x80 ∧ c.toNat ≠ 0x25 ∧ c.toNat ≠ 0x2b ∧ c.toNat ≠ 0x20 := by
  rcases Bool.or_eq_true_iff.mp h with h | h
  · have := isAlphanum_toNat h
    omega
  · simp only [List.contains_iff_mem, List.mem_cons, List.not_mem_nil, or_false] at h
    rcases h with rfl | rfl | rfl | rfl <;> decide

/-- Without a plus sign all octets stand for themselves. -/
theorem map_plusAsSpace (h : '+' ∉ cs) :
    (cs.flatMap String.utf8EncodeChar).map plusAsSpace = cs.flatMap String.utf8EncodeChar := by
  refine (List.map_congr_left fun b hb => ?_).trans (List.map_id _)
  obtain ⟨c, hc, hoctet⟩ := List.mem_flatMap.mp hb
  have hne : b ≠ 0x2b := by
    rintro rfl
    rw [Text.ascii_mem_utf8EncodeChar (by decide)] at hoctet
    obtain rfl : c = '+' := Char.toNat_inj.mp hoctet
    exact h hc
  simp [plusAsSpace, hne]

theorem percentDecode_octets (bytes rest : Bytes) :
    percentDecode ((bytes.flatMap percentOctet).flatMap String.utf8EncodeChar ++ rest) =
      bytes ++ percentDecode rest := by
  induction bytes with
  | nil => rfl
  | cons b bytes ih =>
    rw [List.flatMap_cons, List.flatMap_append, List.append_assoc, percentDecode_percentOctet, ih,
      List.cons_append]

/-- A character is read off what it is written as in a form, whatever comes behind. -/
theorem percentDecode_formChar (c : Char) (rest : Bytes) :
    percentDecode (((formChar c).flatMap String.utf8EncodeChar).map plusAsSpace ++ rest) =
      String.utf8EncodeChar c ++ percentDecode rest := by
  unfold formChar
  split
  · rename_i hspace
    obtain rfl : c = ' ' := by simpa using hspace
    exact percentDecode_plain (by decide) rest
  · unfold percentChar
    split
    · have hplus : '+' ∉ (String.utf8EncodeChar c).flatMap percentOctet := by
        intro h
        obtain ⟨b, -, hb⟩ := List.mem_flatMap.mp h
        exact absurd (mem_percentOctet hb) (by decide)
      rw [map_plusAsSpace hplus, percentDecode_octets]
    · rename_i hplain
      obtain ⟨hascii, hpercent, hplus, -⟩ := plainInForm_toNat (c := c) (by simpa using hplain)
      have hmem : '+' ∉ [c] := by
        rintro h
        obtain rfl := List.mem_singleton.mp h
        exact hplus rfl
      rw [map_plusAsSpace hmem, List.flatMap_singleton, Text.utf8EncodeChar_ascii hascii]
      refine percentDecode_plain (fun h => hpercent ?_) rest
      have hoctet := congrArg UInt8.toNat h
      rwa [UInt8.toNat_ofNat', Nat.mod_eq_of_lt (by omega)] at hoctet

/-- **A name or value is read back.** -/
theorem formDecode_formEncode (s : String) : formDecode (Text.utf8 (formEncode s)) = s := by
  have hread : ∀ cs : List Char,
      percentDecode (((cs.flatMap formChar).flatMap String.utf8EncodeChar).map plusAsSpace) =
        cs.flatMap String.utf8EncodeChar := by
    intro cs
    induction cs with
    | nil => rfl
    | cons c cs ih =>
      rw [List.flatMap_cons, List.flatMap_append, List.map_append, percentDecode_formChar, ih,
        List.flatMap_cons]
  rw [formDecode_eq, formEncode_eq, Text.utf8_ofList, hread]
  exact Text.utf8Lossy_utf8 s

theorem inForm_of_mem_formEncode (h : c ∈ (formEncode s).toList) : inForm c := by
  rw [formEncode_eq, String.toList_ofList] at h
  obtain ⟨d, -, hc⟩ := List.mem_flatMap.mp h
  exact inForm_of_mem_formChar hc

/-! ## Pairs -/

/-- A pair as it is written in a form. -/
def formPairText (p : String × String) : String := formEncode p.1 ++ "=" ++ formEncode p.2

theorem formQuery_eq (pairs : List (String × String)) :
    formQuery pairs = "&".intercalate (pairs.map formPairText) := rfl

theorem not_mem_utf8_formEncode {b : UInt8} (hb : b.toNat < 0x80)
    (hform : ¬inForm (Char.ofNat b.toNat)) (s : String) : b ∉ Text.utf8 (formEncode s) := by
  intro h
  obtain ⟨c, hc, hoctet⟩ := List.mem_flatMap.mp h
  rw [Text.ascii_mem_utf8EncodeChar hb] at hoctet
  rw [← hoctet, Char.ofNat_toNat] at hform
  exact hform (inForm_of_mem_formEncode hc)

theorem utf8_formPairText (p : String × String) : Text.utf8 (formPairText p) =
    Text.utf8 (formEncode p.1) ++ 0x3d :: Text.utf8 (formEncode p.2) := by
  rw [formPairText, Text.utf8_append, Text.utf8_append, List.append_assoc]
  rfl

/-- A pair is read back, for no name holds the separator. -/
theorem formPair_formPairText (p : String × String) :
    formPair (Text.utf8 (formPairText p)) = p := by
  have hname : ∀ b ∈ Text.utf8 (formEncode p.1), (b != 0x3d) = true := by
    intro b hb
    refine bne_iff_ne.mpr ?_
    rintro rfl
    exact not_mem_utf8_formEncode (by decide) (by unfold inForm; decide) _ hb
  rw [formPair, utf8_formPairText, List.takeWhile_append_of_pos hname,
    List.dropWhile_append_of_pos hname]
  simp [formDecode_formEncode]

/-- **A form gives back its pairs.** -/
theorem formPairs_formQuery (pairs : List (String × String)) :
    formPairs (formQuery pairs) = pairs := by
  cases pairs with
  | nil => rfl
  | cons p pairs =>
    have hseparator : ∀ s, (0x26 : UInt8) ∉ Text.utf8 (formEncode s) :=
      not_mem_utf8_formEncode (by decide) (by unfold inForm; decide)
    have hpieces : ∀ piece ∈ (p :: pairs).map (Text.utf8 ∘ formPairText),
        (0x26 : UInt8) ∉ piece ∧ (!piece.isEmpty) = true := by
      intro piece hpiece
      obtain ⟨q, -, rfl⟩ := List.mem_map.mp hpiece
      simp [utf8_formPairText, hseparator]
    have hamp : Text.utf8 "&" = [0x26] := rfl
    have hread : formPair ∘ (Text.utf8 ∘ formPairText) = id := by
      funext q
      rw [Function.comp_apply, Function.comp_apply, formPair_formPairText, id]
    rw [formPairs, formQuery_eq, Text.utf8_intercalate, hamp, List.map_map,
      List.splitOn_intercalate _ (fun piece h => (hpieces piece h).1) (by simp),
      List.filter_eq_self.mpr (fun piece h => (hpieces piece h).2), List.map_map,
      hread, List.map_id]

example : formQuery [("a b", "ü&"), ("c", "")] = "a+b=%C3%BC%26&c=" := by decide +kernel

/-- What a form is written with. -/
theorem mem_formQuery {pairs : List (String × String)} (h : c ∈ (formQuery pairs).toList) :
    inForm c ∨ c = '&' ∨ c = '=' := by
  have hpair : ∀ p, c ∈ (formPairText p).toList → inForm c ∨ c = '=' := by
    intro p hp
    rw [formPairText, String.toList_append, String.toList_append, List.mem_append,
      List.mem_append] at hp
    rcases hp with (hp | hp) | hp
    · exact .inl (inForm_of_mem_formEncode hp)
    · exact .inr (List.mem_singleton.mp hp)
    · exact .inl (inForm_of_mem_formEncode hp)
  rw [formQuery_eq, String.toList_intercalate] at h
  rcases Text.mem_intercalate h with h | ⟨l, hl, h⟩
  · exact .inr (.inl (List.mem_singleton.mp h))
  · obtain ⟨text, htext, rfl⟩ := List.mem_map.mp hl
    obtain ⟨p, -, rfl⟩ := List.mem_map.mp htext
    rcases hpair p h with h | h
    · exact .inl h
    · exact .inr (.inr h)

end LogPipeline.Url
