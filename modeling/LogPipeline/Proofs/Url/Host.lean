import Mathlib.Data.Bool.AllAny
import LogPipeline.Proofs.Url.Form
import LogPipeline.Url.Host

/-!
# The characters of hosts

However a host is read, from a domain name, an address or a text of its own, it is written with
characters that may stand before a query (`inFront_specialHost?`, `inFront_otherHost?`).
-/

namespace LogPipeline.Url

/-- The character may stand before the query of a URL: it is no blank and no control character, and
it begins neither a query nor a fragment. -/
def inFront (c : Char) : Prop := 0x20 < c.toNat ∧ c ≠ '?' ∧ c ≠ '#'

instance (c : Char) : Decidable (inFront c) := inferInstanceAs (Decidable (_ ∧ _ ∧ _))

variable {c : Char} {cs : List Char} {host : String}

theorem inFront_of_isAlphanum (h : c.isAlphanum = true) : inFront c := by
  have hrange := isAlphanum_toNat h
  refine ⟨by omega, ?_, ?_⟩
  · rintro rfl
    exact absurd h (by decide)
  · rintro rfl
    exact absurd h (by decide)

theorem inFront_of_not_reservedInPath (h : reservedInPath c = false) : inFront c := by
  simp only [reservedInPath, reservedInFragment, reservedAlways, Bool.or_eq_false_iff,
    decide_eq_false_iff_not, List.contains_eq_mem, List.mem_cons, List.not_mem_nil, or_false,
    not_or] at h
  obtain ⟨⟨⟨hcontrol, -⟩, hspace, -⟩, hmark, hquery, -⟩ := h
  have hne : c.toNat ≠ 0x20 := fun heq => hspace (Char.toNat_inj.mp heq)
  exact ⟨by omega, hquery, hmark⟩

/-- Percent-encoded text may stand in front, if all that may not is reserved. -/
theorem inFront_of_mem_percentEncode {reserved : Char → Bool}
    (hreserved : ∀ c, reserved c = false → inFront c) (h : c ∈ percentEncode reserved cs) :
    inFront c := by
  rcases mem_percentEncode h with ⟨-, hc⟩ | rfl | halphanum
  · exact hreserved c hc
  · decide
  · exact inFront_of_isAlphanum halphanum

/-- The marks that stand between the parts of a URL. -/
theorem inFront_mark : ∀ mark ∈ [":", "@", "[", "]", "::", "//", "/."], ∀ c ∈ mark.toList,
    inFront c := by
  intro mark hmark
  simp only [List.mem_cons, List.not_mem_nil, or_false] at hmark
  rcases hmark with rfl | rfl | rfl | rfl | rfl | rfl | rfl <;>
    exact List.all_iff_forall_prop.mp (by decide)

/-! ## Addresses -/

theorem isAlphanum_of_mem_toDigits {b : Nat} (hb : 1 < b) (hb' : b ≤ 16) {n : Nat}
    (h : c ∈ Nat.toDigits b n) : c.isAlphanum = true := by
  have hdigit : ∀ {d : Nat}, d < 16 → d.digitChar.isAlphanum = true := by decide
  induction n using Nat.strongRecOn with
  | ind n ih =>
    by_cases hlt : n < b
    · rw [Nat.toDigits_of_lt_base hlt, List.mem_singleton] at h
      rw [h]
      exact hdigit (by omega)
    · rw [Nat.toDigits_of_base_le hb (by omega), List.mem_append, List.mem_singleton] at h
      rcases h with h | rfl
      · exact ih _ (Nat.div_lt_self (by omega) hb) h
      · exact hdigit (Nat.lt_of_lt_of_le (Nat.mod_lt _ (by omega)) hb')

theorem inFront_toString {n : Nat} (h : c ∈ (toString n).toList) : inFront c := by
  have hdigits : c ∈ Nat.toDigits 10 n := Nat.toList_repr ▸ h
  exact inFront_of_isAlphanum (isAlphanum_of_mem_toDigits (by decide) (by decide) hdigits)

theorem inFront_ipv4Text {n : Nat} (h : c ∈ (ipv4Text n).toList) : inFront c := by
  rw [ipv4Text, String.toList_intercalate] at h
  rcases Text.mem_intercalate h with h | ⟨l, hl, h⟩
  · obtain rfl := List.mem_singleton.mp h
    decide
  · obtain ⟨text, htext, rfl⟩ := List.mem_map.mp hl
    obtain ⟨octet, -, rfl⟩ := List.mem_map.mp htext
    exact inFront_toString h

theorem inFront_piecesText {ps : List Nat} (h : c ∈ (piecesText ps).toList) : inFront c := by
  rw [piecesText, String.toList_intercalate] at h
  rcases Text.mem_intercalate h with h | ⟨l, hl, h⟩
  · obtain rfl := List.mem_singleton.mp h
    decide
  · obtain ⟨text, htext, rfl⟩ := List.mem_map.mp hl
    obtain ⟨piece, -, rfl⟩ := List.mem_map.mp htext
    rw [String.toList_ofList] at h
    exact inFront_of_isAlphanum (isAlphanum_of_mem_toDigits (by decide) (by decide) h)

theorem inFront_ipv6Text {ps : List Nat} (h : c ∈ (ipv6Text ps).toList) : inFront c := by
  unfold ipv6Text at h
  dsimp only at h
  split at h
  · simp only [String.toList_append, List.mem_append] at h
    rcases h with (h | h) | h
    · exact inFront_mark "[" (by simp) c h
    · exact inFront_piecesText h
    · exact inFront_mark "]" (by simp) c h
  · simp only [String.toList_append, List.mem_append] at h
    rcases h with (h | (h | h) | h) | h
    · exact inFront_mark "[" (by simp) c h
    · exact inFront_piecesText h
    · exact inFront_mark "::" (by simp) c h
    · exact inFront_piecesText h
    · exact inFront_mark "]" (by simp) c h

theorem inFront_bracketed? (hread : bracketed? cs = .ok host) (h : c ∈ host.toList) :
    inFront c := by
  unfold bracketed? at hread
  split at hread
  · obtain rfl := Except.ok.inj hread
    exact inFront_ipv6Text h
  · cases hread

/-! ## Domain names -/

namespace Domain

theorem inFront_of_not_isForbidden (h : isForbidden c = false) : inFront c := by
  simp only [isForbidden, Bool.or_eq_false_iff, decide_eq_false_iff_not, List.contains_eq_mem,
    List.mem_cons, List.not_mem_nil, or_false, not_or] at h
  obtain ⟨⟨hblank, -⟩, -, hmark, -, -, -, -, hquery, -⟩ := h
  exact ⟨by omega, hquery, hmark⟩

theorem Punycode.isAlphanum_digitOf : ∀ {n : Nat}, n < 36 → (digitOf n).isAlphanum = true := by
  decide

theorem Punycode.threshold_le (k bias : Nat) : threshold k bias ≤ 26 := Nat.min_le_left _ _

theorem Punycode.isAlphanum_of_mem_numberDigits {bias steps k n : Nat}
    (h : c ∈ numberDigits bias steps k n) : c.isAlphanum = true := by
  induction steps generalizing k n with
  | zero => cases h
  | succ steps ih =>
    have hthreshold := threshold_le k bias
    rw [numberDigits] at h
    split at h
    · rw [List.mem_singleton.mp h]
      exact isAlphanum_digitOf (by omega)
    · rcases List.mem_cons.mp h with rfl | h
      · have hrest := Nat.mod_lt (n - threshold k bias)
          (show 0 < base - threshold k bias by unfold base; omega)
        exact isAlphanum_digitOf (by unfold base at *; omega)
      · exact ih h

/-- What is written for the characters that are not ASCII are digits. -/
theorem Punycode.mem_output_pass {point : Nat} {s : Writing} {d : Char}
    (hs : ∀ c ∈ s.output, c.isAlphanum = true) :
    ∀ c ∈ (pass point s d).output, c.isAlphanum = true := by
  unfold pass
  split
  · exact hs
  · split
    · intro c hc
      rcases List.mem_append.mp hc with hc | hc
      · exact isAlphanum_of_mem_numberDigits (List.mem_reverse.mp hc)
      · exact hs c hc
    · exact hs

theorem Punycode.mem_output_writePoints {label : List Char} {next : Nat} {s : Writing}
    {points : List Nat} (hs : ∀ c ∈ s.output, c.isAlphanum = true) :
    ∀ c ∈ (writePoints label next s points).output, c.isAlphanum = true := by
  have hfold : ∀ (ds : List Char) (point : Nat) (s : Writing),
      (∀ c ∈ s.output, c.isAlphanum = true) →
        ∀ c ∈ (ds.foldl (pass point) s).output, c.isAlphanum = true := by
    intro ds point
    induction ds with
    | nil => exact fun s hs => hs
    | cons d ds ih => exact fun s hs => ih _ (mem_output_pass hs)
  induction points generalizing next s with
  | nil => exact hs
  | cons point points ih =>
    rw [writePoints]
    exact ih (hfold label point _ hs)

/-- A label in ASCII is written with characters of its own, a hyphen and digits. -/
theorem Punycode.mem_encode? {label written : List Char} (hencode : encode? label = some written)
    (h : c ∈ written) : c ∈ label ∨ c = '-' ∨ c.isAlphanum = true := by
  unfold encode? at hencode
  split at hencode
  · cases hencode
  · obtain rfl := Option.some.inj hencode
    rcases List.mem_append.mp h with h | h
    · split at h
      · cases h
      · rcases List.mem_append.mp h with h | h
        · exact .inl (List.mem_filter.mp h).1
        · exact .inr (.inl (List.mem_singleton.mp h))
    · refine .inr (.inr (mem_output_writePoints ?_ c (List.mem_reverse.mp h)))
      simp

/-- What is read in a list has been read from something in the list. -/
theorem exists_of_mem_mapM {α β : Type} {f : α → Option β} {xs : List α} {ys : List β} {y : β}
    (hread : xs.mapM f = some ys) (h : y ∈ ys) : ∃ x ∈ xs, f x = some y := by
  induction xs generalizing ys with
  | nil =>
    obtain rfl : [] = ys := by simpa using hread
    cases h
  | cons x xs ih =>
    rw [List.mapM_cons] at hread
    obtain ⟨first, hfirst, hread⟩ := Option.bind_eq_some_iff.mp hread
    obtain ⟨others, hothers, hread⟩ := Option.bind_eq_some_iff.mp hread
    obtain rfl : first :: others = ys := Option.some.inj hread
    rcases List.mem_cons.mp h with rfl | h
    · exact ⟨x, List.mem_cons_self, hfirst⟩
    · obtain ⟨z, hz, hy⟩ := ih hothers h
      exact ⟨z, List.mem_cons_of_mem _ hz, hy⟩

theorem isLabel_of_readLabel? {label meant : List Char} (h : readLabel? label = some meant) :
    isLabel meant = true := by
  unfold readLabel? at h
  split at h
  · obtain ⟨decoded, -, h⟩ := Option.bind_eq_some_iff.mp h
    split at h
    · cases h
    · rename_i hfit
      obtain rfl := Option.some.inj h
      simp only [Bool.or_eq_true, Bool.not_eq_true', not_or] at hfit
      simpa using hfit.2
  · split at h
    · rename_i hlabel
      rwa [← Option.some.inj h]
    · cases h

theorem inFront_of_isLabel {label : List Char} (hlabel : isLabel label = true) (h : c ∈ label) :
    inFront c := by
  simp only [isLabel, Bool.and_eq_true, Bool.not_eq_true', List.any_eq_false] at hlabel
  exact inFront_of_not_isForbidden (by simpa using hlabel.1.2 c h)

theorem inFront_writeLabel? {label written : List Char} (hlabel : isLabel label = true)
    (hwrite : writeLabel? label = some written) (h : c ∈ written) : inFront c := by
  unfold writeLabel? at hwrite
  split at hwrite
  · obtain rfl := Option.some.inj hwrite
    exact inFront_of_isLabel hlabel h
  · obtain ⟨encoded, hencode, rfl⟩ := Option.map_eq_some_iff.mp hwrite
    rcases List.mem_append.mp h with h | h
    · have hmark : ∀ d ∈ asciiMark, inFront d := List.all_iff_forall_prop.mp (by decide)
      exact hmark c h
    · rcases Punycode.mem_encode? hencode h with h | rfl | h
      · exact inFront_of_isLabel hlabel h
      · decide
      · exact inFront_of_isAlphanum h

/-- The ASCII form of a domain name holds nothing that is forbidden in it. -/
theorem inFront_toAscii? {bytes : Bytes} {domain : List Char}
    (hread : toAscii? bytes = some domain) (h : c ∈ domain) : inFront c := by
  unfold toAscii? at hread
  simp only [bind, Option.bind_eq_some_iff] at hread
  obtain ⟨_, -, _, -, meant, hmeant, hread⟩ := hread
  split at hread
  · cases hread
  · obtain ⟨written, hwritten, hread⟩ := Option.bind_eq_some_iff.mp hread
    obtain rfl : ['.'].intercalate written = domain := Option.some.inj hread
    rcases Text.mem_intercalate h with h | ⟨label, hlabel, h⟩
    · obtain rfl := List.mem_singleton.mp h
      decide
    · obtain ⟨label', hlabel', hwrite⟩ := exists_of_mem_mapM hwritten hlabel
      obtain ⟨_, -, hlabel'⟩ := exists_of_mem_mapM hmeant hlabel'
      exact inFront_writeLabel? (isLabel_of_readLabel? hlabel') hwrite h

end Domain

/-! ## Hosts -/

theorem inFront_specialHost? (hread : specialHost? cs = .ok host) (h : c ∈ host.toList) :
    inFront c := by
  unfold specialHost? at hread
  split at hread
  · exact inFront_bracketed? hread h
  · split at hread
    · cases hread
    · rename_i domain hdomain
      split at hread
      · cases hread
      · split at hread
        · split at hread
          · obtain rfl := Except.ok.inj hread
            exact inFront_ipv4Text h
          · cases hread
        · obtain rfl := Except.ok.inj hread
          rw [String.toList_ofList] at h
          exact Domain.inFront_toAscii? hdomain h

theorem inFront_otherHost? (hread : otherHost? cs = .ok host) (h : c ∈ host.toList) :
    inFront c := by
  unfold otherHost? at hread
  split at hread
  · exact inFront_bracketed? hread h
  · split at hread
    · cases hread
    · rename_i hallowed
      obtain rfl := Except.ok.inj hread
      rw [String.toList_ofList] at h
      rcases mem_percentEncode h with ⟨hmem, hplain⟩ | rfl | halphanum
      · have hfree : forbiddenInHost c = false := by
          simp only [List.any_eq_true, not_exists, not_and, Bool.not_eq_true] at hallowed
          exact hallowed c hmem
        simp only [forbiddenInHost, List.contains_eq_mem, decide_eq_false_iff_not, List.mem_cons,
          List.not_mem_nil, or_false, not_or] at hfree
        obtain ⟨-, -, -, -, hspace, hmark, -, -, -, -, hquery, -⟩ := hfree
        have hne : c.toNat ≠ 0x20 := fun heq => hspace (Char.toNat_inj.mp heq)
        simp only [reservedAlways, Bool.or_eq_false_iff, decide_eq_false_iff_not] at hplain
        exact ⟨by omega, hquery, hmark⟩
      · decide
      · exact inFront_of_isAlphanum halphanum

end LogPipeline.Url
