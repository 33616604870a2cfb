import LogPipeline.Proofs.File.Sound

/-!
# Paths beside a file

How a path is resolved, one component after the other, and what becomes of the path of a file when
something is put behind its name (`place_append`): it leads to the longer name in the same
directory.
-/

namespace LogPipeline.FileSystem

variable {fs : FileSystem}

/-! ## Components -/

/-- The components of the characters of a path. -/
def namesOf (l : List Char) : List String :=
  ((l.splitOn '/').filter (!·.isEmpty)).map String.ofList

theorem components_eq (path : String) : components path = namesOf path.toList := rfl

@[simp] theorem namesOf_nil : namesOf [] = [] := rfl

theorem namesOf_append_slash (a b : List Char) :
    namesOf (a ++ '/' :: b) = namesOf a ++ namesOf b := by
  simp [namesOf, List.splitOn_append_cons_self]

theorem namesOf_name {l : List Char} (hne : l ≠ []) (h : '/' ∉ l) :
    namesOf l = [String.ofList l] := by
  have : l.splitOn '/' = [l] := List.splitOn_eq_singleton h
  simp [namesOf, this, hne]

/-! ## Following components -/

/-- Follows one component. -/
def enter (fs : FileSystem) (l : Location) (part : String) : Except OsError Location :=
  if part = "." then .ok l
  else if part = ".." then .ok l.dropLast
  else if nameLimit < part.utf8ByteSize then .error .nameTooLong
  else match fs.node? (l ++ [part]) with
    | none => .error .notFound
    | some (.file _) => .error .notDirectory
    | some .dir => .ok (l ++ [part])

theorem follow_cons (fs : FileSystem) (l : Location) (part : String) (rest : List String) :
    fs.follow l (part :: rest) = (fs.enter l part).bind (fs.follow · rest) := by
  unfold enter
  split_ifs with h₁ h₂ h₃
  · subst h₁
    rw [follow]
    rfl
  · subst h₂
    rw [follow]
    rfl
  · rw [follow.eq_4 _ _ _ _ h₁ h₂, if_pos h₃]
    rfl
  · rw [follow.eq_4 _ _ _ _ h₁ h₂, if_neg h₃]
    cases fs.node? (l ++ [part]) with
    | none => rfl
    | some n => cases n <;> rfl

theorem follow_append (fs : FileSystem) (l : Location) (a b : List String) :
    fs.follow l (a ++ b) = (fs.follow l a).bind (fs.follow · b) := by
  induction a generalizing l with
  | nil => rfl
  | cons part rest ih =>
    rw [List.cons_append, follow_cons, follow_cons]
    cases fs.enter l part with
    | error e => rfl
    | ok m => exact ih m

/-- A component `.` leads nowhere else. -/
theorem follow_filter (fs : FileSystem) (l : Location) (parts : List String) :
    fs.follow l (parts.filter (· ≠ ".")) = fs.follow l parts := by
  induction parts generalizing l with
  | nil => rfl
  | cons part rest ih =>
    by_cases h : part = "."
    · subst h
      rw [List.filter_cons_of_neg (by simp), ih, follow_cons]
      rfl
    · rw [List.filter_cons_of_pos (by simpa using h), follow_cons, follow_cons]
      cases fs.enter l part with
      | error e => rfl
      | ok m => exact ih m

theorem enter_mono {fs' : FileSystem} (h : ∀ l, fs.node? l = some .dir → fs'.node? l = some .dir)
    {l m : Location} {part : String} (he : fs.enter l part = .ok m) : fs'.enter l part = .ok m := by
  unfold enter at he ⊢
  split_ifs at he ⊢ with h₁ h₂
  · exact he
  · exact he
  · cases hn : fs.node? (l ++ [part]) with
    | none => simp [hn] at he
    | some n =>
      cases n with
      | file k => simp [hn] at he
      | dir =>
        rw [h _ hn]
        simpa [hn] using he

theorem follow_mono {fs' : FileSystem} (h : ∀ l, fs.node? l = some .dir → fs'.node? l = some .dir)
    {l m : Location} {parts : List String} (hf : fs.follow l parts = .ok m) :
    fs'.follow l parts = .ok m := by
  induction parts generalizing l with
  | nil => exact hf
  | cons part rest ih =>
    rw [follow_cons] at hf ⊢
    cases he : fs.enter l part with
    | error e => simp [he, Except.bind] at hf
    | ok k =>
      rw [he] at hf
      rw [enter_mono h he]
      exact ih hf

/-- Components followed from a directory end in one. -/
theorem Sound.follow_dir (hs : fs.Sound) {l m : Location} {parts : List String}
    (hl : fs.node? l = some .dir) (hf : fs.follow l parts = .ok m) : fs.node? m = some .dir := by
  induction parts generalizing l with
  | nil =>
    obtain rfl : l = m := by simpa [follow] using hf
    exact hl
  | cons part rest ih =>
    rw [follow_cons] at hf
    cases he : fs.enter l part with
    | error e => simp [he, Except.bind] at hf
    | ok k =>
      rw [he] at hf
      refine ih ?_ hf
      unfold enter at he
      split_ifs at he with h₁ h₂
      · simp_all
      · obtain rfl : l.dropLast = k := by simpa using he
        by_cases hnil : l = []
        · subst hnil
          rfl
        · exact hs.node?_parent hnil hl
      · split at he <;> simp_all

/-! ## Names at the end of a path -/

/-- A path that ends in a name, and what stands before it. -/
structure Splits (path : String) (front : List Char) (name : String) : Prop where
  chars : path.toList = front ++ name.toList
  ends : front = [] ∨ ∃ f, front = f ++ ['/']
  whole : '/' ∉ name.toList
  nonempty : name ≠ ""

variable {path name : String} {front : List Char} {dir : Location}

theorem Splits.components (h : Splits path front name) :
    components path = namesOf front ++ [name] := by
  have hne : name.toList ≠ [] := by simpa using h.nonempty
  have hname : namesOf name.toList = [name] := by
    rw [namesOf_name hne h.whole, String.ofList_toList]
  rw [components_eq, h.chars]
  rcases h.ends with rfl | ⟨f, rfl⟩
  · rw [List.nil_append, hname]
    rfl
  · rw [List.append_assoc, List.singleton_append, namesOf_append_slash, hname,
      namesOf_append_slash, namesOf_nil, List.append_nil]

theorem Splits.append (h : Splits path front name) {s : String} (hs : '/' ∉ s.toList) :
    Splits (path ++ s) front (name ++ s) where
  chars := by rw [String.toList_append, String.toList_append, h.chars, List.append_assoc]
  ends := h.ends
  whole := by
    rw [String.toList_append, List.mem_append]
    exact fun hm => hm.elim h.whole hs
  nonempty := by
    intro he
    have := congrArg String.toList he
    rw [String.toList_append] at this
    exact h.nonempty (String.toList_injective (List.append_eq_nil_iff.mp this).1)

/-- A path that ends neither empty nor in a slash ends in a name. -/
theorem exists_splits (hne : path ≠ "") (hslash : path.toList.getLast? ≠ some '/') :
    ∃ front name, Splits path front name := by
  obtain ⟨r, hr⟩ : ∃ r, r = path.toList.reverse := ⟨_, rfl⟩
  have hp : path.toList = (r.dropWhile (· ≠ '/')).reverse ++ (r.takeWhile (· ≠ '/')).reverse := by
    rw [← List.reverse_append, List.takeWhile_append_dropWhile, hr, List.reverse_reverse]
  refine ⟨(r.dropWhile (· ≠ '/')).reverse, .ofList (r.takeWhile (· ≠ '/')).reverse, ?_, ?_, ?_, ?_⟩
  · rw [String.toList_ofList]
    exact hp
  · cases hd : r.dropWhile (· ≠ '/') with
    | nil => exact .inl rfl
    | cons c rest =>
      have hc := List.head_dropWhile_not (· ≠ '/') (l := r) (by rw [hd]; simp)
      simp only [hd, List.head_cons] at hc
      obtain rfl : c = '/' := by simpa using hc
      exact .inr ⟨rest.reverse, by simp⟩
  · rw [String.toList_ofList, List.mem_reverse]
    intro hm
    simpa using List.all_eq_true.mp List.all_takeWhile _ hm
  · intro he
    have hnil : r.takeWhile (· ≠ '/') = [] := by simpa using congrArg String.toList he
    cases r with
    | nil =>
      have : path.toList = [] := by simpa using hr.symm
      exact hne (String.toList_injective this)
    | cons c rest =>
      have hc : c = '/' := by
        by_contra hc
        rw [List.takeWhile_cons_of_pos (by simpa using hc)] at hnil
        simp at hnil
      subst hc
      apply hslash
      rw [← List.reverse_reverse path.toList, ← hr]
      simp

/-! ## Places -/

/-- How a component at the end of a path is read. -/
def lastPart (name : String) : LastPart :=
  match name with
  | "." => .dot
  | ".." => .dotDot
  | name => .name name

theorem lastPart_name {name : String} (h : name ≠ ".") (h' : name ≠ "..") :
    lastPart name = .name name := by
  unfold lastPart
  split <;> simp_all

/-- A path that has components, by what the last one is read as. -/
theorem place_of_components {init : List String} {last : String} (hne : path ≠ "")
    (hnul : hasNul path = false) (hsize : path.utf8ByteSize ≤ pathLimit)
    (hparts : components path = init ++ [last]) : fs.place path =
      match fs.follow [] init with
      | .error e => .error (.os e)
      | .ok dir => .ok ⟨dir, lastPart last, path.toList.getLast? == some '/'⟩ := by
  have hempty : path.isEmpty = false := by simpa using hne
  unfold FileSystem.place
  rw [if_neg (by simp [hnul]), if_neg (by simp [hempty]), if_neg (by omega)]
  simp only [hparts, List.dropLast_concat, List.getLast?_concat]
  cases fs.follow [] init with
  | error e => rfl
  | ok dir =>
    by_cases h₁ : last = "."
    · subst h₁
      rfl
    by_cases h₂ : last = ".."
    · subst h₂
      rfl
    rw [lastPart_name h₁ h₂]
    simp

theorem Splits.trailing (h : Splits path front name) :
    (path.toList.getLast? == some '/') = false := by
  have hne : name.toList ≠ [] := by simpa using h.nonempty
  rw [h.chars, List.getLast?_append_of_ne_nil _ hne, beq_eq_false_iff_ne]
  exact fun hl => h.whole (List.mem_of_getLast? hl)

theorem Splits.ne_empty (h : Splits path front name) : path ≠ "" := by
  rintro rfl
  have := h.chars
  have hne : name.toList ≠ [] := by simpa using h.nonempty
  simp_all

theorem Splits.place (h : Splits path front name) (hnul : hasNul path = false)
    (hsize : path.utf8ByteSize ≤ pathLimit) : fs.place path =
      match fs.follow [] (namesOf front) with
      | .error e => .error (.os e)
      | .ok dir => .ok ⟨dir, lastPart name, false⟩ := by
  rw [place_of_components h.ne_empty hnul hsize h.components, h.trailing]

theorem size_le_of_place {p : Place} (h : fs.place path = .ok p) :
    path.utf8ByteSize ≤ pathLimit := by
  unfold FileSystem.place at h
  split_ifs at h
  omega

theorem place_trailing {p : Place} (h : fs.place path = .ok p) :
    p.trailing = (path.toList.getLast? == some '/') := by
  unfold FileSystem.place at h
  split_ifs at h
  cases hf : fs.follow [] (components path).dropLast with
  | error e => simp [hf] at h
  | ok dir =>
    simp only [hf, Except.ok.injEq] at h
    rw [← h]

/-- A path that leads to a name, taken apart. -/
theorem exists_splits_of_place (h : fs.place path = .ok ⟨dir, .name name, false⟩) :
    ∃ front, Splits path front name ∧ hasNul path = false ∧ path.utf8ByteSize ≤ pathLimit ∧
      fs.follow [] (namesOf front) = .ok dir ∧ name ≠ "." ∧ name ≠ ".." := by
  have hparts := h
  unfold FileSystem.place at hparts
  split_ifs at hparts with hnul hempty hsize
  have hslash : path.toList.getLast? ≠ some '/' := by
    cases hf : fs.follow [] (components path).dropLast with
    | error e => simp [hf] at hparts
    | ok d =>
      simp only [hf, Except.ok.injEq, Place.mk.injEq, beq_eq_false_iff_ne] at hparts
      exact hparts.2.2
  obtain ⟨front, last, hs⟩ := exists_splits (by simpa using hempty) hslash
  have hnul : hasNul path = false := by simpa using hnul
  have hsize : path.utf8ByteSize ≤ pathLimit := by omega
  rw [hs.place hnul hsize] at h
  cases hf : fs.follow [] (namesOf front) with
  | error e => simp [hf] at h
  | ok d =>
    rw [hf] at h
    simp only [Except.ok.injEq, Place.mk.injEq, and_true] at h
    obtain ⟨rfl, hlast⟩ := h
    have hname : last = name ∧ last ≠ "." ∧ last ≠ ".." := by
      unfold lastPart at hlast
      split at hlast
      · simp at hlast
      · simp at hlast
      · rename_i h₁ h₂
        exact ⟨by simpa using hlast, h₁, h₂⟩
    obtain ⟨rfl, h₁, h₂⟩ := hname
    exact ⟨front, hs, hnul, hsize, hf, h₁, h₂⟩

theorem Splits.place_eq (h : Splits path front name) (hnul : hasNul path = false)
    (hsize : path.utf8ByteSize ≤ pathLimit) (hdir : fs.follow [] (namesOf front) = .ok dir)
    (h₁ : name ≠ ".") (h₂ : name ≠ "..") : fs.place path = .ok ⟨dir, .name name, false⟩ := by
  rw [h.place hnul hsize, hdir, lastPart_name h₁ h₂]

/-- A name that goes on is none of the names of directories if it was none before. -/
theorem append_ne_dots {s : String} (hne : name ≠ "") (h₁ : name ≠ ".") (h₂ : name ≠ "..") :
    name ++ s ≠ "." ∧ name ++ s ≠ ".." := by
  rw [ne_eq, ← String.toList_inj] at hne h₁ h₂
  rw [ne_eq, ne_eq, ← String.toList_inj, ← String.toList_inj, String.toList_append]
  cases hn : name.toList with
  | nil => simp_all
  | cons c rest =>
    cases rest with
    | nil => simp_all
    | cons d rest => cases rest <;> simp_all

/-- **Behind the name of a file.** What is put behind a path that leads to a name leads to the
longer name in the same directory. -/
theorem place_append (h : fs.place path = .ok ⟨dir, .name name, false⟩) {s : String}
    (hs : '/' ∉ s.toList) (hnul : '\x00' ∉ s.toList)
    (hsize : (path ++ s).utf8ByteSize ≤ pathLimit) :
    fs.place (path ++ s) = .ok ⟨dir, .name (name ++ s), false⟩ := by
  obtain ⟨front, hsplit, hnul', -, hdir, h₁, h₂⟩ := exists_splits_of_place h
  have hdots := append_ne_dots (s := s) hsplit.nonempty h₁ h₂
  refine (hsplit.append hs).place_eq ?_ hsize hdir hdots.1 hdots.2
  simp only [hasNul, String.toList_append, List.contains_eq_mem, List.mem_append,
    decide_eq_false_iff_not] at hnul' ⊢
  exact fun hm => hm.elim hnul' hnul

theorem place_mono {fs' : FileSystem} (h : ∀ l, fs.node? l = some .dir → fs'.node? l = some .dir)
    {p : Place} (hp : fs.place path = .ok p) : fs'.place path = .ok p := by
  unfold FileSystem.place at hp ⊢
  split_ifs at hp ⊢
  cases hf : fs.follow [] (components path).dropLast with
  | error e => simp [hf] at hp
  | ok d =>
    simp only [follow_mono h hf]
    simpa only [hf] using hp

theorem find_name (h : fs.place path = .ok ⟨dir, .name name, false⟩)
    (hsize : name.utf8ByteSize ≤ nameLimit) {x : Node} (hx : fs.node? (dir ++ [name]) = some x) :
    fs.find path = .ok (dir ++ [name], x) := by
  simp only [find, h, bind, Except.bind, if_neg (Nat.not_lt.mpr hsize), hx]
  cases x <;> rfl

theorem has_iff (h : fs.place path = .ok ⟨dir, .name name, false⟩) :
    fs.has path = true ↔
      name.utf8ByteSize ≤ nameLimit ∧ ∃ x, fs.node? (dir ++ [name]) = some x := by
  by_cases hsize : nameLimit < name.utf8ByteSize
  · simp [has, find, h, bind, Except.bind, hsize, Except.toOption, Nat.not_le.mpr hsize]
  · have hle := Nat.le_of_not_lt hsize
    cases hx : fs.node? (dir ++ [name]) with
    | none => simp [has, find, h, bind, Except.bind, hsize, hx, Except.toOption]
    | some x => simp [has, find_name h hle hx, Except.toOption, hle]

/-- A place that can be named is free if its path leads nowhere. -/
theorem free_of_not_has (h : fs.place path = .ok ⟨dir, .name name, false⟩)
    (hsize : name.utf8ByteSize ≤ nameLimit) (hhas : fs.has path = false) :
    fs.node? (dir ++ [name]) = none := by
  by_contra hx
  rw [(has_iff h).mpr ⟨hsize, Option.ne_none_iff_exists'.mp hx⟩] at hhas
  simp at hhas

end LogPipeline.FileSystem
