import LogPipeline.File.System
import Mathlib.Data.List.Induction
import Mathlib.Data.List.Nodup
import Mathlib.Tactic.ByContra

/-!
# Sound file systems

`Sound` is what every file system keeps: each name stands once and in a directory, no file has two
names, and the numbers of files yet to come are unused. Each operation keeps it, and is described
by what `node?` and `content` give afterwards.
-/

namespace LogPipeline.FileSystem

/-- What every file system keeps. -/
structure Sound (fs : FileSystem) : Prop where
  names : (fs.entries.map (·.1)).Nodup
  rooted : ∀ e ∈ fs.entries, e.1 ≠ []
  held : ∀ e ∈ fs.entries, fs.node? e.1.dropLast = some .dir
  unshared : ∀ l m n, fs.node? l = some (.file n) → fs.node? m = some (.file n) → l = m
  numbered : ∀ l n, fs.node? l = some (.file n) → n < fs.next

variable {fs : FileSystem}

@[simp] theorem node?_nil (fs : FileSystem) : fs.node? [] = some .dir := rfl

theorem node?_of_ne_nil {l : Location} (hl : l ≠ []) : fs.node? l = fs.entries.lookup l := by
  have : l.isEmpty = false := by simpa using hl
  rw [node?, this]
  rfl

theorem Sound.empty : empty.Sound where
  names := List.nodup_nil
  rooted := by simp [FileSystem.empty]
  held := by simp [FileSystem.empty]
  unshared := by
    intro l m n hl
    by_cases h : l = []
    · subst h
      simp at hl
    · rw [node?_of_ne_nil h] at hl
      simp [FileSystem.empty] at hl
  numbered := by
    intro l n hl
    by_cases h : l = []
    · subst h
      simp at hl
    · rw [node?_of_ne_nil h] at hl
      simp [FileSystem.empty] at hl

theorem mem_of_node? {l : Location} {n : Node} (hl : l ≠ []) (h : fs.node? l = some n) :
    (l, n) ∈ fs.entries := by
  rw [node?_of_ne_nil hl] at h
  obtain ⟨before, after, he, _⟩ := List.lookup_eq_some_iff.mp h
  rw [he]
  simp

theorem lookup_of_mem {entries : List (Location × Node)} (hn : (entries.map (·.1)).Nodup)
    {l : Location} {n : Node} (h : (l, n) ∈ entries) : entries.lookup l = some n := by
  induction entries with
  | nil => simp at h
  | cons e rest ih =>
    obtain ⟨k, x⟩ := e
    rw [List.map_cons, List.nodup_cons] at hn
    rcases List.mem_cons.mp h with heq | hrest
    · obtain ⟨rfl, rfl⟩ := Prod.mk.inj heq
      simp
    · have hne : l ≠ k := by
        intro heq
        subst heq
        exact hn.1 (List.mem_map.mpr ⟨(l, n), hrest, rfl⟩)
      rw [List.lookup_cons, beq_false_of_ne hne]
      exact ih hn.2 hrest

theorem Sound.node?_eq_some_iff (h : fs.Sound) {l : Location} {n : Node} (hl : l ≠ []) :
    fs.node? l = some n ↔ (l, n) ∈ fs.entries := by
  refine ⟨mem_of_node? hl, fun hm => ?_⟩
  rw [node?_of_ne_nil hl]
  exact lookup_of_mem h.names hm

theorem Sound.node?_of_mem (h : fs.Sound) {e : Location × Node} (he : e ∈ fs.entries) :
    fs.node? e.1 = some e.2 :=
  (h.node?_eq_some_iff (h.rooted e he)).mpr he

theorem Sound.ne_of_free (h : fs.Sound) {l : Location} (hfree : fs.node? l = none)
    {e : Location × Node} (he : e ∈ fs.entries) : e.1 ≠ l := by
  rintro rfl
  rw [h.node?_of_mem he] at hfree
  simp at hfree

/-- What has a name stands in a directory. -/
theorem Sound.node?_parent (h : fs.Sound) {l : Location} {n : Node} (hl : l ≠ [])
    (hn : fs.node? l = some n) : fs.node? l.dropLast = some .dir :=
  h.held _ (mem_of_node? hl hn)

theorem Sound.node?_dir (h : fs.Sound) {d : Location} {a : String} {n : Node}
    (hn : fs.node? (d ++ [a]) = some n) : fs.node? d = some .dir := by
  have := h.node?_parent (by simp) hn
  rwa [List.dropLast_concat] at this

/-- Nothing lies below what is no directory. -/
theorem Sound.node?_below_of_ne (h : fs.Sound) {l : Location} (hn : fs.node? l ≠ some .dir)
    {rest : Location} (hr : rest ≠ []) : fs.node? (l ++ rest) = none := by
  induction rest using List.reverseRecOn with
  | nil => exact absurd rfl hr
  | append_singleton rest a ih =>
    by_contra hx
    obtain ⟨x, hx⟩ := Option.ne_none_iff_exists'.mp hx
    rw [← List.append_assoc] at hx
    have hd := h.node?_dir hx
    by_cases hrest : rest = []
    · subst hrest
      rw [List.append_nil] at hd
      exact hn hd
    · rw [ih hrest] at hd
      simp at hd

/-- Nothing lies below a file. -/
theorem Sound.node?_below (h : fs.Sound) {l : Location} {n : Nat}
    (hn : fs.node? l = some (.file n)) {rest : Location} (hr : rest ≠ []) :
    fs.node? (l ++ rest) = none :=
  h.node?_below_of_ne (by simp [hn]) hr

/-! ## Contents -/

theorem Sound.setContent (h : fs.Sound) (n : Nat) (bytes : Bytes) : (fs.setContent n bytes).Sound :=
  ⟨h.names, h.rooted, h.held, h.unshared, h.numbered⟩

theorem Sound.append (h : fs.Sound) (n : Nat) (bytes : Bytes) : (fs.append n bytes).Sound :=
  h.setContent n _

@[simp] theorem node?_append (fs : FileSystem) (n : Nat) (bytes : Bytes) (l : Location) :
    (fs.append n bytes).node? l = fs.node? l := rfl

/-! ## New names -/

/-- A name added in a directory, for a directory or for a file of an unused number. -/
theorem Sound.add (h : fs.Sound) {l : Location} {x : Node} {contents : Table Bytes} {next : Nat}
    (hl : l ≠ []) (hfree : fs.node? l = none) (hdir : fs.node? l.dropLast = some .dir)
    (hnext : fs.next ≤ next)
    (hfile : ∀ n, x = .file n → n < next ∧ ∀ m, fs.node? m ≠ some (.file n)) :
    Sound { fs.link l x with contents, next } := by
  have hnode : ∀ m, FileSystem.node? { fs.link l x with contents, next } m =
      (fs.node? m).or (if m = l then some x else none) := fun m => node?_link fs l m x
  have hkeep : ∀ {m y}, fs.node? m = some y →
      FileSystem.node? { fs.link l x with contents, next } m = some y := by
    intro m y hm
    rw [hnode, hm]
    rfl
  refine ⟨?_, ?_, ?_, ?_, ?_⟩
  · show ((fs.entries ++ [(l, x)]).map (·.1)).Nodup
    rw [List.map_append, List.nodup_append]
    refine ⟨h.names, by simp, ?_⟩
    intro a ha b hb heq
    obtain ⟨e, he, rfl⟩ := List.mem_map.mp ha
    obtain rfl : b = l := by simpa using hb
    exact h.ne_of_free hfree he heq
  · intro e he
    rcases List.mem_append.mp he with he | he
    · exact h.rooted e he
    · obtain rfl : e = (l, x) := by simpa using he
      exact hl
  · intro e he
    rcases List.mem_append.mp he with he | he
    · exact hkeep (h.held e he)
    · obtain rfl : e = (l, x) := by simpa using he
      exact hkeep hdir
  · -- a file found at two places is an old one at both, or the new one at both
    intro a b n ha hb
    rw [hnode] at ha hb
    rcases Option.or_eq_some_iff.mp ha with ha | ⟨_, ha⟩ <;>
      rcases Option.or_eq_some_iff.mp hb with hb | ⟨_, hb⟩
    · exact h.unshared a b n ha hb
    · split at hb
      · exact absurd ha ((hfile n (by simpa using hb)).2 a)
      · simp at hb
    · split at ha
      · exact absurd hb ((hfile n (by simpa using ha)).2 b)
      · simp at ha
    · split at ha
      · split at hb
        · simp_all
        · simp at hb
      · simp at ha
  · intro m n hm
    rw [hnode] at hm
    rcases Option.or_eq_some_iff.mp hm with hm | ⟨_, hm⟩
    · exact Nat.lt_of_lt_of_le (h.numbered m n hm) hnext
    · split at hm
      · exact (hfile n (by simpa using hm)).1
      · simp at hm

theorem Sound.link_dir (h : fs.Sound) {l : Location} (hl : l ≠ []) (hfree : fs.node? l = none)
    (hdir : fs.node? l.dropLast = some .dir) : (fs.link l .dir).Sound :=
  h.add hl hfree hdir (Nat.le_refl _) (by simp)

/-- The file system with a new empty file. -/
def newFile (fs : FileSystem) (l : Location) : FileSystem :=
  { fs.link l (.file fs.next) with contents := fs.contents.put fs.next [], next := fs.next + 1 }

theorem Sound.newFile (h : fs.Sound) {l : Location} (hl : l ≠ []) (hfree : fs.node? l = none)
    (hdir : fs.node? l.dropLast = some .dir) : (fs.newFile l).Sound := by
  refine h.add hl hfree hdir (Nat.le_succ _) ?_
  intro n hn
  obtain rfl : fs.next = n := by simpa using hn
  exact ⟨Nat.lt_succ_self _, fun m hm => Nat.lt_irrefl _ (h.numbered m _ hm)⟩

theorem node?_newFile (fs : FileSystem) (l m : Location) :
    (fs.newFile l).node? m = (fs.node? m).or (if m = l then some (.file fs.next) else none) :=
  node?_link fs l m _

@[simp] theorem content_newFile (fs : FileSystem) (l : Location) (n : Nat) :
    (fs.newFile l).content n = if fs.next = n then [] else fs.content n := by
  simp only [content, newFile, Table.find?_put]
  split <;> rfl

/-! ## Names that go -/

theorem Sound.unlink (h : fs.Sound) {l : Location} (hbelow : ∀ a, fs.node? (l ++ [a]) = none) :
    (fs.unlink l).Sound := by
  have hold : ∀ {m x}, (fs.unlink l).node? m = some x → fs.node? m = some x := by
    intro m x hm
    by_cases hnil : m = []
    · subst hnil
      exact hm
    · rw [node?_unlink fs l m hnil] at hm
      split at hm
      · simp at hm
      · exact hm
  refine ⟨?_, ?_, ?_, ?_, ?_⟩
  · exact h.names.sublist (List.filter_sublist.map _)
  · exact fun e he => h.rooted e (List.mem_filter.mp he).1
  · intro e he
    obtain ⟨he, hne⟩ := List.mem_filter.mp he
    have hd := h.held e he
    by_cases hnil : e.1.dropLast = []
    · rw [hnil]
      rfl
    · rw [node?_unlink fs l _ hnil, if_neg, hd]
      -- otherwise the name would be one below `l`
      intro heq
      have hx := h.node?_of_mem he
      rw [← List.dropLast_append_getLast (h.rooted e he), heq, hbelow] at hx
      simp at hx
  · exact fun a b n ha hb => h.unshared a b n (hold ha) (hold hb)
  · exact fun m n hm => h.numbered m n (hold hm)

/-! ## Names that move -/

/-- The file system after an entry, with all that lies below it, has been given another name. -/
def relocate (fs : FileSystem) (src dst : Location) : FileSystem :=
  { fs with entries := fs.entries.map fun e => (moved src dst e.1, e.2) }

@[simp] theorem next_relocate (fs : FileSystem) (src dst : Location) :
    (fs.relocate src dst).next = fs.next := rfl

@[simp] theorem content_relocate (fs : FileSystem) (src dst : Location) (n : Nat) :
    (fs.relocate src dst).content n = fs.content n := rfl

section

variable {src dst : Location}

theorem moved_append (src dst rest : Location) : moved src dst (src ++ rest) = dst ++ rest := by
  rw [moved, if_pos (List.isPrefixOf_iff_prefix.mpr (List.prefix_append src rest)),
    List.drop_left]

theorem moved_of_outside {l : Location} (h : ¬src <+: l) : moved src dst l = l := by
  rw [moved, if_neg (mt List.isPrefixOf_iff_prefix.mp h)]

/-- Nothing stands at or below a free name. -/
theorem Sound.node?_at_free (h : fs.Sound) (hfree : fs.node? dst = none) (rest : Location) :
    fs.node? (dst ++ rest) = none := by
  by_cases hr : rest = []
  · rw [hr, List.append_nil, hfree]
  · exact h.node?_below_of_ne (by simp [hfree]) hr

/-- Two entries that move to one place are one, if nothing was there. -/
theorem Sound.moved_injective (h : fs.Sound) (hfree : fs.node? dst = none) {l m : Location}
    {x y : Node} (hl : fs.node? l = some x) (hm : fs.node? m = some y)
    (heq : moved src dst l = moved src dst m) : l = m := by
  have hfar : ∀ {k z rest}, fs.node? k = some z → k ≠ dst ++ rest := by
    rintro k z rest hk rfl
    rw [h.node?_at_free hfree] at hk
    cases hk
  by_cases hsl : src <+: l <;> by_cases hsm : src <+: m
  · obtain ⟨rest, rfl⟩ := hsl
    obtain ⟨rest', rfl⟩ := hsm
    rw [moved_append, moved_append, List.append_cancel_left_eq] at heq
    rw [heq]
  · obtain ⟨rest, rfl⟩ := hsl
    rw [moved_append, moved_of_outside hsm] at heq
    exact absurd heq.symm (hfar hm)
  · obtain ⟨rest, rfl⟩ := hsm
    rw [moved_append, moved_of_outside hsl] at heq
    exact absurd heq (hfar hl)
  · rwa [moved_of_outside hsl, moved_of_outside hsm] at heq

theorem Sound.nodup_relocate (h : fs.Sound) (hfree : fs.node? dst = none) :
    ((fs.relocate src dst).entries.map (·.1)).Nodup := by
  have hmap : (fs.relocate src dst).entries.map (·.1) =
      (fs.entries.map (·.1)).map (moved src dst) := by
    simp only [relocate, List.map_map, Function.comp_def]
  rw [hmap]
  refine List.Nodup.map_on ?_ h.names
  intro a ha b hb heq
  obtain ⟨e, he, rfl⟩ := List.mem_map.mp ha
  obtain ⟨e', he', rfl⟩ := List.mem_map.mp hb
  exact h.moved_injective hfree (h.node?_of_mem he) (h.node?_of_mem he') heq

/-- What stands anywhere afterwards has moved there or has been left there. -/
theorem Sound.node?_relocate_iff (h : fs.Sound) (hne : src ≠ []) (hfree : fs.node? dst = none)
    {m : Location} {x : Node} : (fs.relocate src dst).node? m = some x ↔
      ∃ l, fs.node? l = some x ∧ moved src dst l = m := by
  have hdst : dst ≠ [] := by
    rintro rfl
    simp at hfree
  have hroot : ¬src <+: [] := by simpa using hne
  by_cases hm : m = []
  · subst hm
    constructor
    · exact fun hx => ⟨[], hx, moved_of_outside hroot⟩
    · rintro ⟨l, hl, heq⟩
      by_cases hs : src <+: l
      · obtain ⟨rest, rfl⟩ := hs
        rw [moved_append] at heq
        exact absurd (List.append_eq_nil_iff.mp heq).1 hdst
      · rw [moved_of_outside hs] at heq
        rwa [heq] at hl
  · constructor
    · intro hx
      obtain ⟨e, he, heq⟩ := List.mem_map.mp (mem_of_node? hm hx)
      obtain ⟨hmoved, rfl⟩ := Prod.mk.inj heq
      exact ⟨e.1, h.node?_of_mem he, hmoved⟩
    · rintro ⟨l, hl, rfl⟩
      have hnil : l ≠ [] := by
        rintro rfl
        exact hm (moved_of_outside hroot)
      rw [node?_of_ne_nil hm]
      exact lookup_of_mem (h.nodup_relocate hfree)
        (List.mem_map.mpr ⟨(l, x), mem_of_node? hnil hl, rfl⟩)

/-- What stands at a place afterwards: what was moved there, nothing where it came from, and
elsewhere what stood there. -/
theorem Sound.node?_relocate_tree (h : fs.Sound) (hne : src ≠ []) (hfree : fs.node? dst = none)
    (m : Location) : (fs.relocate src dst).node? m =
      if dst <+: m then fs.node? (src ++ m.drop dst.length)
      else if src <+: m then none else fs.node? m := by
  ext x
  rw [h.node?_relocate_iff hne hfree]
  split_ifs with hd hs
  · obtain ⟨rest, rfl⟩ := hd
    rw [List.drop_left]
    constructor
    · rintro ⟨l, hl, heq⟩
      by_cases hsl : src <+: l
      · obtain ⟨rest', rfl⟩ := hsl
        rw [moved_append, List.append_cancel_left_eq] at heq
        rwa [← heq]
      · rw [moved_of_outside hsl] at heq
        rw [heq, h.node?_at_free hfree] at hl
        cases hl
    · exact fun hx => ⟨_, hx, moved_append src dst rest⟩
  · constructor
    · rintro ⟨l, hl, rfl⟩
      by_cases hsl : src <+: l
      · obtain ⟨rest, rfl⟩ := hsl
        rw [moved_append] at hd
        exact absurd (List.prefix_append dst rest) hd
      · rw [moved_of_outside hsl] at hs
        exact absurd hs hsl
    · exact fun hx => nomatch hx
  · constructor
    · rintro ⟨l, hl, rfl⟩
      by_cases hsl : src <+: l
      · obtain ⟨rest, rfl⟩ := hsl
        rw [moved_append] at hd
        exact absurd (List.prefix_append dst rest) hd
      · rwa [moved_of_outside hsl]
    · exact fun hx => ⟨m, hx, moved_of_outside hs⟩

/-- An entry can be given a free name in any directory but one below itself. -/
theorem Sound.relocate_tree (h : fs.Sound) (hne : src ≠ []) (hfree : fs.node? dst = none)
    (hdir : fs.node? dst.dropLast = some .dir) (hbelow : ¬src <+: dst) :
    (fs.relocate src dst).Sound := by
  have hdst : dst ≠ [] := by
    rintro rfl
    simp at hfree
  have hnode := h.node?_relocate_tree hne hfree
  -- a directory that does not move is found where it was
  have hstays : ∀ {d}, fs.node? d = some .dir → ¬src <+: d →
      (fs.relocate src dst).node? d = some .dir := by
    intro d hd hs
    rw [hnode, if_neg, if_neg hs, hd]
    rintro ⟨rest, rfl⟩
    rw [h.node?_at_free hfree] at hd
    cases hd
  have hentry : ∀ e ∈ (fs.relocate src dst).entries, ∃ e' ∈ fs.entries, e.1 = moved src dst e'.1 := by
    intro e he
    obtain ⟨e', he', rfl⟩ := List.mem_map.mp he
    exact ⟨e', he', rfl⟩
  refine ⟨h.nodup_relocate hfree, ?_, ?_, ?_, ?_⟩
  · intro e he
    obtain ⟨e', he', heq⟩ := hentry e he
    rw [heq]
    by_cases hs : src <+: e'.1
    · obtain ⟨rest, hrest⟩ := hs
      rw [← hrest, moved_append]
      exact fun hnil => hdst (List.append_eq_nil_iff.mp hnil).1
    · rw [moved_of_outside hs]
      exact h.rooted e' he'
  · intro e he
    obtain ⟨e', he', heq⟩ := hentry e he
    have hheld := h.held e' he'
    rw [heq]
    by_cases hs : src <+: e'.1
    · obtain ⟨rest, hrest⟩ := hs
      rw [← hrest, moved_append]
      by_cases hr : rest = []
      · rw [hr, List.append_nil]
        refine hstays hdir fun hs' => hbelow (hs'.trans <| List.dropLast_prefix dst)
      · rw [← hrest, List.dropLast_append_of_ne_nil hr] at hheld
        rw [List.dropLast_append_of_ne_nil hr, hnode, if_pos (List.prefix_append _ _),
          List.drop_left, hheld]
    · rw [moved_of_outside hs]
      exact hstays hheld fun hs' => hs (hs'.trans <| List.dropLast_prefix _)
  · intro a b n ha hb
    obtain ⟨l, hl, rfl⟩ := (h.node?_relocate_iff hne hfree).mp ha
    obtain ⟨m, hm, rfl⟩ := (h.node?_relocate_iff hne hfree).mp hb
    rw [h.unshared l m n hl hm]
  · intro m n hm
    obtain ⟨l, hl, -⟩ := (h.node?_relocate_iff hne hfree).mp hm
    exact h.numbered l n hl

/-- Where a file moves, its own entry is the only one that does. -/
theorem Sound.node?_relocate (h : fs.Sound) {n : Nat} (hne : src ≠ [])
    (hs : fs.node? src = some (.file n)) (hfree : fs.node? dst = none) (m : Location) :
    (fs.relocate src dst).node? m =
      if m = dst then some (.file n) else if m = src then none else fs.node? m := by
  rw [h.node?_relocate_tree hne hfree]
  by_cases hd : dst <+: m
  · obtain ⟨rest, rfl⟩ := hd
    rw [if_pos (List.prefix_append dst rest), List.drop_left]
    by_cases hr : rest = []
    · rw [hr, List.append_nil, List.append_nil, hs, if_pos rfl]
    · rw [h.node?_below hs hr, h.node?_at_free hfree, if_neg (by simpa using hr), ite_self]
  · have hmd : m ≠ dst := by
      rintro rfl
      exact hd (List.prefix_refl m)
    rw [if_neg hd, if_neg hmd]
    by_cases hsm : src <+: m
    · obtain ⟨rest, rfl⟩ := hsm
      rw [if_pos (List.prefix_append src rest)]
      by_cases hr : rest = []
      · rw [hr, List.append_nil, if_pos rfl]
      · rw [h.node?_below hs hr, ite_self]
    · rw [if_neg hsm, if_neg]
      rintro rfl
      exact hsm (List.prefix_refl m)

theorem Sound.relocate (h : fs.Sound) {n : Nat} (hne : src ≠ [])
    (hs : fs.node? src = some (.file n)) (hfree : fs.node? dst = none)
    (hdir : fs.node? dst.dropLast = some .dir) : (fs.relocate src dst).Sound := by
  refine h.relocate_tree hne hfree hdir ?_
  rintro ⟨rest, rfl⟩
  by_cases hr : rest = []
  · rw [hr, List.append_nil, hs] at hfree
    cases hfree
  · rw [List.dropLast_append_of_ne_nil hr] at hdir
    by_cases hinit : rest.dropLast = []
    · rw [hinit, List.append_nil, hs] at hdir
      cases hdir
    · rw [h.node?_below hs hinit] at hdir
      cases hdir

end

end LogPipeline.FileSystem
