import LogPipeline.Proofs.File.Path
import Mathlib.Data.List.TakeWhile

/-!
# The directory of a path

What remains of the path of a file without its name (`parent_splits`): its components are those in
front of the name, up to components `.`, and it is no longer than what stands in front.
-/

namespace LogPipeline.Path

open FileSystem (namesOf namesOf_nil namesOf_append_slash namesOf_name Splits)

/-! ## The end of a path -/

theorem trimEnd_suffix (l : List Char) : trimEnd l <:+ l := by
  fun_induction trimEnd l with
  | case1 => exact List.suffix_refl _
  | case2 rest ih => exact ih.trans (List.suffix_cons _ _)
  | case3 => exact List.nil_suffix
  | case4 rest ih => exact (ih.trans (List.suffix_cons _ _)).trans (List.suffix_cons _ _)
  | case5 l => exact List.suffix_refl _

theorem trimEnd_name {l : List Char} (hne : l ≠ []) (hslash : '/' ∉ l) (hdot : l ≠ ['.'])
    (rest : List Char) : trimEnd (l ++ rest) = l ++ rest := by
  obtain ⟨c, l, rfl⟩ := List.exists_cons_of_ne_nil hne
  unfold trimEnd
  split
  · rename_i h
    simp at h
  · rename_i h
    simp_all
  · rename_i h
    simp_all
  · rename_i h
    cases l with
    | nil => simp_all
    | cons d l => simp_all
  · rfl

theorem cutLast_name {l : List Char} (hslash : '/' ∉ l) (r : List Char) :
    cutLast l = (l, none) ∧ cutLast (l ++ '/' :: r) = (l, some r) := by
  have hall : ∀ c ∈ l, (c != '/') = true := by
    intro c hc
    rw [bne_iff_ne]
    rintro rfl
    exact hslash hc
  constructor
  · rw [cutLast, List.dropWhile_eq_nil_iff.mpr hall]
  · rw [cutLast, List.dropWhile_append_of_pos hall, List.takeWhile_append_of_pos hall]
    simp

/-- The components that count: all but `.`. -/
def steps (l : List Char) : List String := (namesOf l).filter (· ≠ ".")

theorem steps_append_slash (a b : List Char) : steps (a ++ '/' :: b) = steps a ++ steps b := by
  rw [steps, namesOf_append_slash, List.filter_append, steps, steps]

/-- Trimming leaves the components as they are. What stands in front must not join a `.` at the
beginning. -/
theorem steps_trimEnd (front l : List Char)
    (h : front = [] ∨ front = ['/'] ∨ l = [] ∨ l.getLast? = some '/') :
    steps (front ++ (trimEnd l).reverse) = steps (front ++ l.reverse) := by
  have hlast : ∀ {c : Char} {rest : List Char},
      (front = [] ∨ front = ['/'] ∨ c :: rest = [] ∨ (c :: rest).getLast? = some '/') →
      front = [] ∨ front = ['/'] ∨ rest = [] ∨ rest.getLast? = some '/' := by
    intro c rest h
    cases rest with
    | nil => simp
    | cons d rest => simpa using h
  have hslash : ∀ a : List Char, steps (a ++ ['/']) = steps a := by
    intro a
    rw [steps_append_slash, show steps [] = [] from rfl, List.append_nil]
  fun_induction trimEnd l with
  | case1 => rfl
  | case2 rest ih =>
    rw [ih (hlast h), List.reverse_cons, ← List.append_assoc, hslash]
  | case3 =>
    rcases h with rfl | rfl | h | h
    · decide
    · decide
    · simp at h
    · simp at h
  | case4 rest ih =>
    have hdot : (front ++ ('.' :: '/' :: rest).reverse) = (front ++ rest.reverse) ++ '/' :: ['.'] := by
      simp
    rw [ih (hlast (hlast h)), hdot, steps_append_slash, show steps ['.'] = [] by decide,
      List.append_nil]
  | case5 l => rfl

/-! ## Parents -/

variable {path name : String} {front : List Char}

/-- What stands in front of a name, without the anchor. -/
theorem anchored_splits (h : Splits path front name) (hdot : name ≠ ".") :
    ∃ anchor f, anchored path.toList = (anchor, f ++ name.toList) ∧ front = anchor ++ f ∧
      (f = [] ∨ ∃ r, f = r ++ ['/']) ∧
      (anchor = [] ∨ anchor = ['/'] ∨ ∃ g, anchor = ['.'] ∧ f = '/' :: g) := by
  rw [h.chars]
  have hname : name.toList ≠ ['.'] := fun he => hdot (String.toList_injective he)
  have hends := h.ends
  cases front with
  | nil =>
    refine ⟨[], [], ?_, rfl, .inl rfl, .inl rfl⟩
    have := h.whole
    unfold anchored
    split <;> simp_all
  | cons c f =>
    have hf : f = [] ∨ ∃ r, f = r ++ ['/'] := by
      obtain ⟨x, hx⟩ := hends.resolve_left (by simp)
      cases x with
      | nil => exact .inl (by simpa using congrArg List.tail hx)
      | cons d x => exact .inr ⟨x, by simpa using congrArg List.tail hx⟩
    by_cases hslash : c = '/'
    · subst hslash
      exact ⟨['/'], f, rfl, rfl, hf, .inr (.inl rfl)⟩
    · by_cases hdotslash : c = '.' ∧ ∃ g, f = '/' :: g
      · obtain ⟨rfl, g, rfl⟩ := hdotslash
        exact ⟨['.'], '/' :: g, rfl, rfl, hf, .inr (.inr ⟨g, rfl, rfl⟩)⟩
      · refine ⟨[], c :: f, ?_, rfl, .inr (hends.resolve_left (by simp)), .inl rfl⟩
        have hwhole := h.whole
        have hnonempty : f ≠ [] := by
          rintro rfl
          obtain ⟨x, hx⟩ := hends.resolve_left (by simp)
          cases x <;> simp_all
        unfold anchored
        split
        · simp_all
        · simp_all
        · rename_i h
          obtain ⟨d, g, rfl⟩ := List.exists_cons_of_ne_nil hnonempty
          simp_all
        · rfl

/-- The path of a file, taken apart. -/
theorem parent_splits (h : Splits path front name) (h₁ : name ≠ ".") (h₂ : name ≠ "..") :
    fileName? path = some name ∧ ∃ d, parent? path = some (.ofList d) ∧ steps d = steps front ∧
      ((d = [] ∨ d = ['/']) ∧ front = d ∨ ∃ rest, rest ≠ [] ∧ front = d ++ rest) := by
  obtain ⟨anchor, f, hanchored, rfl, hf, hanchor⟩ := anchored_splits h h₁
  have hne : name.toList.reverse ≠ [] := by simpa using h.nonempty
  have hslash : '/' ∉ name.toList.reverse := by simpa using h.whole
  have hdot : name.toList.reverse ≠ ['.'] := by
    intro he
    exact h₁ (String.toList_injective (by simpa using congrArg List.reverse he))
  have htrim := trimEnd_name hne hslash hdot f.reverse
  obtain ⟨c, l, hcons⟩ := List.exists_cons_of_ne_nil
    (show name.toList.reverse ++ f.reverse ≠ [] by simp [hne])
  have hsplit : splitLast (name.toList.reverse ++ f.reverse) =
      (name.toList.reverse, trimEnd f.reverse.tail) := by
    rcases hf with rfl | ⟨r, rfl⟩
    · rw [List.reverse_nil, List.append_nil, splitLast, (cutLast_name hslash []).1]
      rfl
    · rw [List.reverse_append, List.reverse_singleton, List.singleton_append, splitLast,
        (cutLast_name hslash r.reverse).2]
      rfl
  have htext : (f ++ name.toList).reverse = name.toList.reverse ++ f.reverse := List.reverse_append
  refine ⟨?_, anchor ++ (trimEnd f.reverse.tail).reverse, ?_, ?_, ?_⟩
  · rw [fileName?, hanchored, htext, htrim, hcons]
    dsimp only
    rw [← hcons, hsplit, List.reverse_reverse, String.ofList_toList, if_neg (by simpa using h₂)]
  · rw [parent?, hanchored]
    dsimp only
    rw [htext, htrim, hcons]
    dsimp only
    rw [← hcons, hsplit]
  · rcases hf with rfl | ⟨r, rfl⟩
    · rfl
    · rw [List.reverse_append, List.reverse_singleton, List.singleton_append, List.tail_cons,
        steps_trimEnd anchor r.reverse, List.reverse_reverse, ← List.append_assoc,
        steps_append_slash, show steps [] = [] from rfl, List.append_nil]
      rcases hanchor with rfl | rfl | ⟨g, rfl, hg⟩
      · exact .inl rfl
      · exact .inr (.inl rfl)
      · cases r with
        | nil => exact .inr (.inr (.inl rfl))
        | cons c r => simp_all
  · rcases hf with rfl | ⟨r, rfl⟩
    · refine .inl ⟨?_, rfl⟩
      rcases hanchor with rfl | rfl | ⟨g, rfl, hg⟩
      · exact .inl rfl
      · exact .inr rfl
      · simp at hg
    · obtain ⟨x, hx⟩ := List.reverse_prefix.mpr (trimEnd_suffix r.reverse)
      rw [List.reverse_reverse] at hx
      refine .inr ⟨x ++ ['/'], by simp, ?_⟩
      have htail : (r ++ ['/']).reverse.tail = r.reverse := by simp
      rw [htail, List.append_assoc, ← List.append_assoc _ x, hx]

end LogPipeline.Path
