import LogPipeline.Json.Basic
import Mathlib.Data.List.Nodup
import Mathlib.Data.String.Basic

/-!
# Objects without repeated names

A reader may keep the members of an object in their order, with repeated names, or build a tree of
it, in which the last member of each name stands. Where no object has two members of one name
(`Distinct`), both find the same value below any path of names (`at?_tree`). A tree has no repeated
names (`distinct_tree`).
-/

namespace LogPipeline.Json

mutual

/-- No object in the value has two members of one name. -/
def Distinct : Json → Prop
  | .arr elements => DistinctElements elements
  | .obj members => (members.map (·.1)).Nodup ∧ DistinctMembers members
  | _ => True

def DistinctElements : List Json → Prop
  | [] => True
  | j :: rest => j.Distinct ∧ DistinctElements rest

def DistinctMembers : List (String × Json) → Prop
  | [] => True
  | (_, j) :: rest => j.Distinct ∧ DistinctMembers rest

end

/-- The value below a path of names, at each level the first member of the name. -/
def at? : List String → Json → Option Json
  | [], j => some j
  | name :: path, .obj members => (members.lookup name).bind (at? path)
  | _ :: _, _ => none

variable {members : List (String × Json)} {name n : String} {j value : Json}

theorem distinctMembers_iff : DistinctMembers members ↔ ∀ m ∈ members, m.2.Distinct := by
  induction members with
  | nil => simp [DistinctMembers]
  | cons m members ih =>
    obtain ⟨name, j⟩ := m
    rw [DistinctMembers, ih, List.forall_mem_cons]

theorem distinct_obj : (Json.obj members).Distinct ↔
    (members.map (·.1)).Nodup ∧ ∀ m ∈ members, m.2.Distinct := by
  rw [Distinct, distinctMembers_iff]

theorem treeMembers_eq_map (members : List (String × Json)) :
    treeMembers members = members.map (Prod.map id tree) := by
  induction members with
  | nil => rfl
  | cons m members ih =>
    obtain ⟨name, j⟩ := m
    rw [treeMembers, ih, List.map_cons, Prod.map_apply, id]

/-! ## Members by name -/

theorem lookup_cons (m : String × Json) (members : List (String × Json)) :
    (m :: members).lookup n = if n = m.1 then some m.2 else members.lookup n := by
  obtain ⟨name, j⟩ := m
  rw [List.lookup_cons]
  by_cases hn : n = name
  · rw [if_pos hn, beq_iff_eq.mpr hn]
  · rw [if_neg hn, beq_eq_false_iff_ne.mpr hn]

theorem lookup_map (f : Json → Json) (members : List (String × Json)) :
    (members.map (Prod.map id f)).lookup n = (members.lookup n).map f := by
  induction members with
  | nil => rfl
  | cons m members ih =>
    rw [List.map_cons, lookup_cons, lookup_cons, ih]
    split
    · rw [if_pos ‹_›]
      rfl
    · rw [if_neg ‹_›]

theorem mem_of_lookup (h : members.lookup n = some j) : (n, j) ∈ members := by
  obtain ⟨before, after, rfl, -⟩ := List.lookup_eq_some_iff.mp h
  exact List.mem_append_right before List.mem_cons_self

/-- In an object without repeated names every member is found. -/
theorem lookup_eq_some_iff (h : (members.map (·.1)).Nodup) :
    members.lookup n = some j ↔ (n, j) ∈ members := by
  refine ⟨mem_of_lookup, fun hmem => ?_⟩
  induction members with
  | nil => exact absurd hmem List.not_mem_nil
  | cons m members ih =>
    rw [List.map_cons, List.nodup_cons] at h
    rw [lookup_cons]
    rcases List.mem_cons.mp hmem with rfl | hrest
    · exact if_pos rfl
    · have hne : n ≠ m.1 := fun heq => h.1 (heq ▸ List.mem_map_of_mem hrest)
      rw [if_neg hne, ih h.2 hrest]

theorem lookup_reverse (h : (members.map (·.1)).Nodup) :
    members.reverse.lookup n = members.lookup n := by
  have hreverse : (members.reverse.map (·.1)).Nodup := by
    rwa [List.map_reverse, List.nodup_reverse]
  ext j
  rw [lookup_eq_some_iff hreverse, lookup_eq_some_iff h, List.mem_reverse]

theorem lookup_insertMember (name : String) (value : Json) (members : List (String × Json)) :
    (insertMember name value members).lookup n =
      if n = name then some value else members.lookup n := by
  fun_induction insertMember name value members with
  | case1 => exact lookup_cons ..
  | case2 m j rest hlt => exact lookup_cons ..
  | case3 j rest hlt =>
    rw [lookup_cons, lookup_cons]
    split <;> rfl
  | case4 m j rest hlt hne ih =>
    rw [lookup_cons, lookup_cons, ih]
    by_cases hm : n = m
    · have hname : n ≠ name := fun h => hne (h.symm.trans hm)
      rw [if_pos hm, if_pos hm, if_neg hname]
    · rw [if_neg hm, if_neg hm]

/-- Of several members of one name, the last one is kept. -/
theorem lookup_sortMembers (members : List (String × Json)) :
    (sortMembers members).lookup n = members.reverse.lookup n := by
  suffices hinto : ∀ sorted : List (String × Json),
      (members.foldl (fun sorted m => insertMember m.1 m.2 sorted) sorted).lookup n =
        (members.reverse.lookup n).or (sorted.lookup n) by
    rw [sortMembers, hinto, List.lookup_nil, Option.or_none]
  induction members with
  | nil => exact fun _ => rfl
  | cons m members ih =>
    intro sorted
    rw [List.foldl_cons, ih, lookup_insertMember, List.reverse_cons, List.lookup_append,
      Option.or_assoc, lookup_cons]
    split <;> rfl

/-! ## Values below a path -/

theorem at?_append (path more : List String) (j : Json) :
    j.at? (path ++ more) = (j.at? path).bind (at? more) := by
  induction path generalizing j with
  | nil => rfl
  | cons name path ih =>
    cases j with
    | obj members =>
      rw [List.cons_append, at?, at?, Option.bind_assoc]
      exact congrArg _ (funext ih)
    | _ => rfl

theorem Distinct.at? {path : List String} (h : j.Distinct) (hvalue : j.at? path = some value) :
    value.Distinct := by
  induction path generalizing j with
  | nil => exact Option.some.inj hvalue ▸ h
  | cons name path ih =>
    cases j with
    | obj members =>
      obtain ⟨child, hchild, hbelow⟩ := Option.bind_eq_some_iff.mp hvalue
      exact ih ((distinct_obj.mp h).2 _ (mem_of_lookup hchild)) hbelow
    | _ => exact nomatch hvalue

/-! ## Trees -/

/-- A tree holds what is found in a value without repeated names. -/
theorem at?_tree (h : j.Distinct) (path : List String) :
    j.tree.at? path = (j.at? path).map tree := by
  induction path generalizing j with
  | nil => rfl
  | cons name path ih =>
    cases j with
    | obj members =>
      rw [distinct_obj] at h
      have hnames : ((members.map (Prod.map id tree)).map (·.1)).Nodup := by
        rw [List.map_map]
        exact h.1
      rw [tree, at?, at?, treeMembers_eq_map, lookup_sortMembers, lookup_reverse hnames, lookup_map]
      cases hfound : members.lookup name with
      | none => rfl
      | some value => exact ih (h.2 _ (mem_of_lookup hfound))
    | _ => rfl

/-- The names of an object are in order. -/
def Sorted (members : List (String × Json)) : Prop := members.Pairwise (·.1 < ·.1)

theorem mem_insertMember {m : String × Json} (h : m ∈ insertMember name value members) :
    m = (name, value) ∨ m ∈ members := by
  fun_induction insertMember name value members with
  | case1 => exact .inl (List.mem_singleton.mp h)
  | case2 n j rest hlt => exact List.mem_cons.mp h
  | case3 j rest hlt => exact (List.mem_cons.mp h).imp_right (List.mem_cons_of_mem _)
  | case4 n j rest hlt hne ih =>
    rcases List.mem_cons.mp h with rfl | hrest
    · exact .inr List.mem_cons_self
    · exact (ih hrest).imp_right (List.mem_cons_of_mem _)

theorem Sorted.insertMember (h : Sorted members) (name : String) (value : Json) :
    Sorted (insertMember name value members) := by
  fun_induction Json.insertMember name value members with
  | case1 => exact List.pairwise_singleton ..
  | case2 n j rest hlt =>
    refine List.pairwise_cons.mpr ⟨List.forall_mem_cons.mpr ⟨hlt, fun m hm => ?_⟩, h⟩
    exact hlt.trans ((List.pairwise_cons.mp h).1 m hm)
  | case3 j rest hlt => exact List.pairwise_cons.mpr (List.pairwise_cons.mp h)
  | case4 n j rest hlt hne ih =>
    rw [Sorted, List.pairwise_cons] at h
    refine List.pairwise_cons.mpr ⟨fun m hm => ?_, ih h.2⟩
    rcases mem_insertMember hm with rfl | hm
    · exact lt_of_le_of_ne (not_lt.mp hlt) (Ne.symm hne)
    · exact h.1 m hm

theorem sorted_sortMembers (members : List (String × Json)) : Sorted (sortMembers members) :=
  List.foldlRecOn members _ List.Pairwise.nil fun _ h m _ => h.insertMember m.1 m.2

theorem Sorted.nodup (h : Sorted members) : (members.map (·.1)).Nodup :=
  (List.pairwise_map.mpr h).imp ne_of_lt

theorem mem_sortMembers {m : String × Json} (h : m ∈ sortMembers members) : m ∈ members := by
  have hfound := (lookup_eq_some_iff (sorted_sortMembers members).nodup).mpr h
  rw [lookup_sortMembers] at hfound
  exact List.mem_reverse.mp (mem_of_lookup hfound)

mutual

theorem distinct_tree : ∀ j : Json, j.tree.Distinct
  | .null | .bool _ | .int _ | .float _ | .str _ => trivial
  | .arr elements => distinct_treeElements elements
  | .obj members => by
    rw [tree, distinct_obj]
    refine ⟨(sorted_sortMembers _).nodup, fun m hm => ?_⟩
    exact distinctMembers_iff.mp (distinct_treeMembers members) m (mem_sortMembers hm)

theorem distinct_treeElements : ∀ elements : List Json, DistinctElements (treeElements elements)
  | [] => trivial
  | j :: rest => ⟨distinct_tree j, distinct_treeElements rest⟩

theorem distinct_treeMembers : ∀ members : List (String × Json),
    DistinctMembers (treeMembers members)
  | [] => trivial
  | (_, j) :: rest => ⟨distinct_tree j, distinct_treeMembers rest⟩

end

end LogPipeline.Json
