import LogPipeline.Record.Scope

/-!
# Placing attributes one by one

`merged` is what a stage derived step by step adds up to: every bound attribute under the groups
that were open when it was bound, and those of the record under the groups that are open at the end,
each placed by itself (`Attr.place`). A scope keeps its bound attributes merged, and comes to the
same (`resolve_derived`).
-/

namespace LogPipeline

/-- Puts one attribute under a path of groups: at each level into the first group of the name, or
into a new one at the end. -/
def Attr.place (a : Attr) : List String → List Attr → List Attr
  | [], target => target ++ [a]
  | name :: path, [] => [⟨name, .group (a.place path [])⟩]
  | name :: path, ⟨key, .group children⟩ :: rest =>
    if key = name then ⟨key, .group (a.place path children)⟩ :: rest
    else ⟨key, .group children⟩ :: a.place (name :: path) rest
  | name :: path, b :: rest => b :: a.place (name :: path) rest
termination_by path target => (path.length, target.length)

/-- An attribute and the groups that it stands under. -/
structure Placement where
  groups : List String
  attr : Attr

/-- The groups that derivations leave open, below those open before. -/
def openGroups (groups : List String) : List Derivation → List String
  | [] => groups
  | .attrs _ :: rest => openGroups groups rest
  | .group name :: rest => openGroups (if name.isEmpty then groups else groups ++ [name]) rest

/-- The attributes that derivations bind, each with the groups that are open then. -/
def placements (groups : List String) : List Derivation → List Placement
  | [] => []
  | .attrs attrs :: rest => attrs.map (⟨groups, ·⟩) ++ placements groups rest
  | .group name :: rest => placements (if name.isEmpty then groups else groups ++ [name]) rest

/-- Places attributes in order. -/
def placeAll (ps : List Placement) (target : List Attr) : List Attr :=
  ps.foldl (fun target p => p.attr.place p.groups target) target

/-- All bound attributes and those of a record, each in its place. -/
def merged (ds : List Derivation) (attrs : List Attr) : List Attr :=
  placeAll (placements [] ds ++ attrs.map (⟨openGroups [] ds, ·⟩)) []

variable {name : String} {path : List String} {attrs target t : List Attr}

/-! ## Groups that are there already -/

theorem updateGroup_eq_none_iff (f g : List Attr → List Attr) :
    updateGroup name f target = none ↔ updateGroup name g target = none := by
  induction target with
  | nil => simp [updateGroup]
  | cons a rest ih =>
    unfold updateGroup
    split
    · split <;> simp [ih]
    · simp [ih]

theorem updateGroup_updateGroup {f g : List Attr → List Attr}
    (h : updateGroup name f target = some t) :
    updateGroup name g t = updateGroup name (fun children => g (f children)) target := by
  induction target generalizing t with
  | nil => simp [updateGroup] at h
  | cons a rest ih =>
    obtain ⟨key, value⟩ := a
    cases value with
    | group children =>
      by_cases hkey : key = name
      · obtain rfl : ⟨name, .group (f children)⟩ :: rest = t := by
          simpa [updateGroup, hkey] using h
        simp [updateGroup, hkey]
      · obtain ⟨u, hu, rfl⟩ : ∃ u, updateGroup name f rest = some u ∧
            ⟨key, .group children⟩ :: u = t := by
          simpa [updateGroup, hkey] using h
        simp [updateGroup, hkey, ih hu]
    | _ =>
      simp only [updateGroup, Option.map_eq_some_iff] at h
      obtain ⟨u, hu, rfl⟩ := h
      simp [updateGroup, ih hu]

/-- A group added at the end is the first one of its name if there was none. -/
theorem updateGroup_append_group {f g : List Attr → List Attr} (children : List Attr)
    (h : updateGroup name f target = none) :
    updateGroup name g (target ++ [⟨name, .group children⟩]) =
      some (target ++ [⟨name, .group (g children)⟩]) := by
  induction target with
  | nil => simp [updateGroup]
  | cons a rest ih =>
    obtain ⟨key, value⟩ := a
    cases value with
    | group c =>
      by_cases hkey : key = name
      · simp [updateGroup, hkey] at h
      · have hrest : updateGroup name f rest = none := by simpa [updateGroup, hkey] using h
        simp [updateGroup, hkey, ih hrest]
    | _ =>
      have hrest : updateGroup name f rest = none := by simpa [updateGroup] using h
      simp [updateGroup, ih hrest]

/-! ## Attributes under a path -/

/-- Attributes can be put in their places in two parts. -/
theorem insertAt_append (path : List String) (as bs target : List Attr) :
    insertAt path (as ++ bs) target = insertAt path bs (insertAt path as target) := by
  induction path generalizing target with
  | nil => simp [insertAt]
  | cons name path ih =>
    rw [insertAt, insertAt, insertAt]
    have hcomp : insertAt path (as ++ bs) =
        fun children => insertAt path bs (insertAt path as children) := funext ih
    cases h : updateGroup name (insertAt path as) target with
    | none =>
      have hab := (updateGroup_eq_none_iff (insertAt path as) (insertAt path (as ++ bs))).mp h
      rw [hab, Option.getD_none, Option.getD_none, updateGroup_append_group _ h, Option.getD_some,
        ih]
    | some t =>
      rw [Option.getD_some, hcomp, ← updateGroup_updateGroup h]
      cases h' : updateGroup name (insertAt path bs) t with
      | none =>
        rw [updateGroup_updateGroup h, ← updateGroup_eq_none_iff (insertAt path as), h] at h'
        simp at h'
      | some u => rfl

theorem insertAt_singleton (path : List String) (a : Attr) (target : List Attr) :
    insertAt path [a] target = a.place path target := by
  induction path generalizing target with
  | nil => simp [insertAt, Attr.place]
  | cons name path ih =>
    rw [insertAt]
    induction target with
    | nil => simp [updateGroup, Attr.place, ih]
    | cons b rest ihr =>
      obtain ⟨key, value⟩ := b
      cases value with
      | group children =>
        rw [Attr.place, ← ihr]
        by_cases hkey : key = name
        · simp [updateGroup, hkey, ih]
        · cases h : updateGroup name (insertAt path [a]) rest <;> simp [updateGroup, hkey, h]
      | _ =>
        rw [Attr.place, ← ihr]
        · cases h : updateGroup name (insertAt path [a]) rest <;> simp [updateGroup, h]
        · simp

theorem placeAll_append (ps qs : List Placement) (target : List Attr) :
    placeAll (ps ++ qs) target = placeAll qs (placeAll ps target) :=
  List.foldl_append

theorem mergeAt_cons (path : List String) (a : Attr) (attrs target : List Attr) :
    mergeAt path (a :: attrs) target = mergeAt path attrs (a.place path target) := by
  cases attrs with
  | nil => simp [mergeAt, insertAt_singleton]
  | cons b attrs =>
    rw [mergeAt, mergeAt, if_neg (by simp), if_neg (by simp), ← List.singleton_append,
      insertAt_append, insertAt_singleton]

/-- Merging attributes is placing them one by one. -/
theorem mergeAt_eq_placeAll (path : List String) (attrs target : List Attr) :
    mergeAt path attrs target = placeAll (attrs.map (⟨path, ·⟩)) target := by
  induction attrs generalizing target with
  | nil => rfl
  | cons a attrs ih =>
    rw [mergeAt_cons, ih]
    rfl

/-- Attributes can be merged in two parts, empty ones among them. -/
theorem mergeAt_append (path : List String) (as bs target : List Attr) :
    mergeAt path (as ++ bs) target = mergeAt path bs (mergeAt path as target) := by
  simp only [mergeAt_eq_placeAll, List.map_append, placeAll_append]

/-! ## What all attributes have in common -/

/-- The attributes that a derivation binds have one property, or the name that it opens another. -/
def Derivation.All (P : Attr → Prop) (N : String → Prop) : Derivation → Prop
  | .attrs attrs => ∀ a ∈ attrs, P a
  | .group name => N name

section

variable {P : Attr → Prop} {N : String → Prop}

/-- What derivations bind, and the groups that they open. -/
theorem placements_all (groups : List String) {ds : List Derivation} (hds : ∀ d ∈ ds, d.All P N)
    (hgroups : ∀ name ∈ groups, N name) :
    (∀ name ∈ openGroups groups ds, N name) ∧
      ∀ p ∈ placements groups ds, P p.attr ∧ ∀ name ∈ p.groups, N name := by
  induction ds generalizing groups with
  | nil => exact ⟨hgroups, by simp [placements]⟩
  | cons d ds ih =>
    rw [List.forall_mem_cons] at hds
    cases d with
    | attrs as =>
      obtain ⟨hopen, hplaced⟩ := ih groups hds.2 hgroups
      refine ⟨hopen, List.forall_mem_append.mpr ⟨?_, hplaced⟩⟩
      exact List.forall_mem_map.mpr fun a ha => ⟨hds.1 a ha, hgroups⟩
    | group name =>
      refine ih _ hds.2 ?_
      split
      · exact hgroups
      · simpa [or_imp, forall_and] using ⟨hgroups, hds.1⟩

-- a group has the property exactly if its name and its attributes are fit for it
variable (hgroup : ∀ key children, P ⟨key, .group children⟩ ↔ N key ∧ ∀ a ∈ children, P a)

include hgroup

/-- Where an attribute is put under groups, the names of the groups come to those that are there. -/
theorem Attr.place_all {a : Attr} (ha : P a) (hpath : ∀ name ∈ path, N name)
    (htarget : ∀ b ∈ target, P b) : ∀ b ∈ a.place path target, P b := by
  fun_induction Attr.place a path target with
  | case1 target => simpa [or_imp, forall_and] using ⟨htarget, ha⟩
  | case2 name path ih =>
    rw [List.forall_mem_cons] at hpath
    exact List.forall_mem_singleton.mpr ((hgroup _ _).mpr ⟨hpath.1, ih hpath.2 (by simp)⟩)
  | case3 path key children rest ih =>
    rw [List.forall_mem_cons] at hpath htarget ⊢
    have hchildren := ((hgroup _ _).mp htarget.1).2
    exact ⟨(hgroup _ _).mpr ⟨hpath.1, ih hpath.2 hchildren⟩, htarget.2⟩
  | case4 name path key children rest hne ih =>
    rw [List.forall_mem_cons] at htarget ⊢
    exact ⟨htarget.1, ih hpath htarget.2⟩
  | case5 name path b rest hscalar ih =>
    rw [List.forall_mem_cons] at htarget ⊢
    exact ⟨htarget.1, ih hpath htarget.2⟩

theorem placeAll_all {ps : List Placement}
    (hps : ∀ p ∈ ps, P p.attr ∧ ∀ name ∈ p.groups, N name) (htarget : ∀ b ∈ target, P b) :
    ∀ b ∈ placeAll ps target, P b := by
  induction ps generalizing target with
  | nil => exact htarget
  | cons p ps ih =>
    rw [List.forall_mem_cons] at hps
    exact ih hps.2 (Attr.place_all hgroup hps.1.1 hps.1.2 htarget)

/-- What all attributes have, and the names of all groups, is not lost by merging. -/
theorem merged_all {ds : List Derivation} (hds : ∀ d ∈ ds, d.All P N)
    (hattrs : ∀ a ∈ attrs, P a) : ∀ a ∈ merged ds attrs, P a := by
  obtain ⟨hopen, hplaced⟩ := placements_all [] hds (by simp)
  refine placeAll_all hgroup (List.forall_mem_append.mpr ⟨hplaced, ?_⟩) (by simp)
  exact List.forall_mem_map.mpr fun a ha => ⟨hattrs a ha, hopen⟩

end

/-! ## Scopes -/

/-- What derivations add to a scope: places for what they bind, and groups that are open. -/
theorem foldl_derive (ds : List Derivation) (s : Scope) :
    ds.foldl Scope.derive s = ⟨placeAll (placements s.groups ds) s.bound, openGroups s.groups ds⟩ := by
  induction ds generalizing s with
  | nil => rfl
  | cons d ds ih =>
    rw [List.foldl_cons, ih]
    cases d with
    | attrs attrs =>
      simp only [Scope.derive, Scope.bind, placements, openGroups, placeAll_append,
        mergeAt_eq_placeAll]
    | group name =>
      simp only [Scope.derive, Scope.enter, placements, openGroups]
      split <;> rfl

/-- **Merging.** A scope derived step by step gives a record every attribute in its own place. -/
theorem resolve_derived (ds : List Derivation) (attrs : List Attr) :
    (ds.foldl Scope.derive .empty).resolve attrs = merged ds attrs := by
  rw [foldl_derive, Scope.resolve, mergeAt_eq_placeAll, merged, placeAll_append]
  rfl

end LogPipeline
