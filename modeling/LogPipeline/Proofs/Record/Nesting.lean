import LogPipeline.Proofs.Json.Members
import LogPipeline.Proofs.Record.Grouping
import LogPipeline.Proofs.Record.JsonDecoding

/-!
# Groups nest without repeated names

Attributes that are no groups and stand apart (`Separate`) are given in groups. Each of them, put in
its place, is added to the groups on its way and to nothing else (`inside_place`), so that what a
group holds besides groups is what is given there, in order (`leaves_inside_placeAll`). It repeats
no name, since a name that is there leads to what was given before (`distinct_place`). So the object
of a JSON line repeats no name either, and every attribute is found at its path
(`nested_names_distinct`).
-/

namespace LogPipeline

open Text (newline)

/-- Where a placement leads: the groups around the attribute, then its key. -/
def Placement.path (p : Placement) : List String := p.groups ++ [p.attr.key]

/-- Neither of two paths leads to the other or through its end. -/
def Beside (p q : List String) : Prop := ¬p <+: q ∧ ¬q <+: p

/-- The attributes of the first group of a name, none if there is no such group. -/
def childrenOf (name : String) : List Attr → List Attr
  | [] => []
  | ⟨key, .group children⟩ :: rest => if key = name then children else childrenOf name rest
  | _ :: rest => childrenOf name rest

/-- The attributes below a path of groups, at each level in the first group of the name. -/
def inside : List String → List Attr → List Attr
  | [], attrs => attrs
  | name :: path, attrs => inside path (childrenOf name attrs)

/-- The attributes that are no groups. -/
def leaves (attrs : List Attr) : List Attr := attrs.filter (!·.value.isGroup)

/-- Whether some attribute is given below a path of groups. -/
def opens (ps : List Placement) (groups : List String) : Bool :=
  ps.any fun p => groups.isPrefixOf p.groups

/-- Attributes that stand apart from one another in a JSON line. -/
structure Separate (ps : List Placement) : Prop where
  scalar : ∀ p ∈ ps, p.isGroup = false
  /-- A payload is a value in memory, in which an object has no two members of one name. -/
  payload : ∀ p ∈ ps, ∀ payload, p.attr.value = .any payload → payload.Distinct
  different : (ps.map (·.path)).Nodup
  /-- No path leads through the end of another. -/
  free : ∀ p ∈ ps, ∀ q ∈ ps, p.path <+: q.path → p.path = q.path
  /-- No path starts with a name that a line gives to what is no attribute. -/
  unreserved : ∀ p ∈ ps, ∀ name ∈ p.path.head?, name ∉ ["time", "level", "msg", "source"]

variable {a b : Attr} {attrs children target : List Attr} {name key : String}
  {path groups : List String} {ps : List Placement} {p : Placement} {r : Record} {f : Formatter}
  {ds : List Derivation}

/-! ## Groups -/

theorem childrenOf_append_scalar (ha : a.value.isGroup = false) (name : String)
    (target : List Attr) :
    childrenOf name (target ++ [a]) = childrenOf name target := by
  fun_induction childrenOf name target with
  | case1 =>
    obtain ⟨key, value⟩ := a
    cases value with
    | group children => exact nomatch ha
    | _ => rfl
  | case2 children rest => exact if_pos rfl
  | case3 key children rest hne ih =>
    rw [List.cons_append, childrenOf, if_neg hne, ih]
  | case4 b rest hb ih => rw [List.cons_append, childrenOf.eq_3 _ _ _ hb, ih]

theorem childrenOf_place (a : Attr) (name n : String) (path : List String) (target : List Attr) :
    childrenOf n (a.place (name :: path) target) =
      if name = n then a.place path (childrenOf name target) else childrenOf n target := by
  induction target with
  | nil =>
    rw [Attr.place, childrenOf]
    rfl
  | cons b rest ih =>
    obtain ⟨key, value⟩ := b
    cases value with
    | group children =>
      rw [Attr.place]
      by_cases hkey : key = name
      · rw [if_pos hkey, childrenOf, childrenOf, childrenOf, if_pos hkey, hkey]
        split <;> rfl
      · rw [if_neg hkey, childrenOf, childrenOf, childrenOf, if_neg hkey, ih]
        by_cases hn : key = n
        · have hname : name ≠ n := fun h => hkey (hn.trans h.symm)
          rw [if_pos hn, if_pos hn, if_neg hname]
        · rw [if_neg hn, if_neg hn]
    | _ =>
      rw [Attr.place, childrenOf, childrenOf, childrenOf, ih]
      all_goals simp

theorem mem_childrenOf (h : childrenOf name attrs ≠ []) :
    ⟨name, .group (childrenOf name attrs)⟩ ∈ attrs := by
  fun_induction childrenOf name attrs with
  | case1 => exact absurd rfl h
  | case2 children rest => exact List.mem_cons_self
  | case3 key children rest hne ih => exact List.mem_cons_of_mem _ (ih h)
  | case4 b rest hb ih => exact List.mem_cons_of_mem _ (ih h)

theorem inside_nil (groups : List String) : inside groups [] = [] := by
  induction groups with
  | nil => rfl
  | cons name groups ih => exact ih

theorem inside_append (groups more : List String) (attrs : List Attr) :
    inside (groups ++ more) attrs = inside more (inside groups attrs) := by
  induction groups generalizing attrs with
  | nil => rfl
  | cons name groups ih => exact ih _

/-- An attribute that is no group, put in its place, is added in the groups on its way only. -/
theorem inside_place (ha : a.value.isGroup = false) (groups path : List String)
    (target : List Attr) :
    inside groups (a.place path target) =
      if groups <+: path then a.place (path.drop groups.length) (inside groups target)
      else inside groups target := by
  induction groups generalizing path target with
  | nil => exact (if_pos List.nil_prefix).symm
  | cons n groups ih =>
    cases path with
    | nil =>
      rw [if_neg (by simp), Attr.place, inside, inside, childrenOf_append_scalar ha]
    | cons name path =>
      rw [inside, inside, childrenOf_place]
      by_cases hname : name = n
      · simp only [hname, if_true, ih, List.cons_prefix_cons, true_and, List.length_cons,
          List.drop_succ_cons]
      · rw [if_neg hname, if_neg (by simp [Ne.symm hname])]

theorem placeAll_cons (p : Placement) (ps : List Placement) (target : List Attr) :
    placeAll (p :: ps) target = placeAll ps (p.attr.place p.groups target) := rfl

theorem opens_cons : opens (p :: ps) groups = true ↔ groups <+: p.groups ∨ opens ps groups = true := by
  simp [opens]

theorem inside_placeAll_ne_nil (hps : ∀ p ∈ ps, p.isGroup = false) (groups : List String)
    (target : List Attr) :
    inside groups (placeAll ps target) ≠ [] ↔
      inside groups target ≠ [] ∨ opens ps groups = true := by
  induction ps generalizing target with
  | nil => simp [placeAll, opens]
  | cons p ps ih =>
    rw [List.forall_mem_cons] at hps
    rw [placeAll_cons, ih hps.2, inside_place hps.1, opens_cons]
    split
    · simp [*, place_ne_nil]
    · simp [*]

/-! ## Leaves -/

theorem leaves_cons (b : Attr) (rest : List Attr) :
    leaves (b :: rest) = leaves [b] ++ leaves rest :=
  List.filter_append [b] rest

theorem leaves_place (ha : a.value.isGroup = false) (path : List String) (target : List Attr) :
    leaves (a.place path target) = leaves target ++ if path = [] then [a] else [] := by
  fun_induction Attr.place a path target with
  | case1 target => simp [leaves, ha]
  | case2 name path ih => rfl
  | case3 path key children rest ih => exact (List.append_nil _).symm
  | case4 name path key children rest hne ih =>
    rw [leaves_cons, ih, leaves_cons _ rest, List.append_assoc]
  | case5 name path b rest hscalar ih => rw [leaves_cons, ih, leaves_cons b rest, List.append_assoc]

theorem leaves_inside_place (ha : a.value.isGroup = false) (groups path : List String)
    (target : List Attr) :
    leaves (inside groups (a.place path target)) =
      leaves (inside groups target) ++ if path = groups then [a] else [] := by
  rw [inside_place ha]
  split
  case isTrue hprefix =>
    obtain ⟨rest, rfl⟩ := hprefix
    rw [leaves_place ha, List.drop_left]
    simp
  case isFalse hprefix =>
    have hne : path ≠ groups := fun h => hprefix (h ▸ List.prefix_rfl)
    rw [if_neg hne, List.append_nil]

/-- The attributes in one group that are no groups are those given there, in order. -/
theorem leaves_inside_placeAll (hps : ∀ p ∈ ps, p.isGroup = false) (groups : List String)
    (target : List Attr) :
    leaves (inside groups (placeAll ps target)) =
      leaves (inside groups target) ++ (ps.filter (·.groups = groups)).map (·.attr) := by
  induction ps generalizing target with
  | nil => exact (List.append_nil _).symm
  | cons p ps ih =>
    rw [List.forall_mem_cons] at hps
    rw [placeAll_cons, ih hps.2, leaves_inside_place hps.1, List.append_assoc, List.filter_cons]
    by_cases hgroups : p.groups = groups <;> simp [hgroups]

/-! ## Ends -/

/-- Every attribute ends in something. -/
theorem exists_end : ∀ a : Attr, ∃ e ∈ Placement.ends ⟨[], a⟩, [a.key] <+: e.path
  | ⟨key, .group (a :: rest)⟩ => by
    obtain ⟨e, he, -⟩ := exists_end a
    rw [ends_group (List.cons_ne_nil a rest)]
    refine ⟨e.within [key], List.mem_map_of_mem (mem_attrEnds List.mem_cons_self he), ?_⟩
    exact ⟨e.path, rfl⟩
  | ⟨key, .group []⟩ => by
    rw [ends_empty]
    exact ⟨_, List.mem_singleton_self _, List.prefix_rfl⟩
  | ⟨key, .str _⟩ | ⟨key, .int _⟩ | ⟨key, .uint _⟩ | ⟨key, .float _⟩ | ⟨key, .bool _⟩
  | ⟨key, .duration _⟩ | ⟨key, .error _⟩ | ⟨key, .any _⟩ => by
    rw [Placement.ends_scalar rfl]
    exact ⟨_, List.mem_singleton_self _, List.prefix_rfl⟩
termination_by a => sizeOf a

theorem attrEnds_placeAll_subset (hps : ∀ p ∈ ps, p.isGroup = false) :
    attrEnds (placeAll ps []) ⊆ ps := by
  have hends : ps.flatMap (·.ends) = ps := by
    rw [List.flatMap_congr fun p hp => Placement.ends_scalar (hps p hp), List.flatMap_singleton']
  have hgathers := (placeAll_gathers ps []).subset
  rwa [attrEnds, List.nil_append, hends] at hgathers

/-- What is found inside of groups is among the ends of the whole. -/
theorem within_mem_attrEnds {e : Placement} (he : e ∈ attrEnds (inside groups attrs)) :
    e.within groups ∈ attrEnds attrs := by
  induction groups generalizing attrs with
  | nil => exact he
  | cons name groups ih =>
    have hbelow := ih he
    have hne : childrenOf name attrs ≠ [] := fun h => by
      rw [h] at hbelow
      exact absurd hbelow List.not_mem_nil
    refine mem_attrEnds (mem_childrenOf hne) ?_
    rw [ends_group hne]
    exact List.mem_map_of_mem hbelow

/-! ## Names -/

theorem Beside.cons {p q : List String} (h : Beside (name :: p) (name :: q)) : Beside p q := by
  simpa [Beside, List.cons_prefix_cons] using h

theorem attrMembers_eq_map (attrs : List Attr) :
    Value.attrMembers attrs = attrs.map fun a => (a.key, a.value.json) := by
  induction attrs with
  | nil => rfl
  | cons a rest ih =>
    obtain ⟨key, value⟩ := a
    rw [Value.attrMembers, ih, List.map_cons]

theorem distinct_group : (Value.group attrs).json.Distinct ↔
    (attrs.map (·.key)).Nodup ∧ ∀ a ∈ attrs, a.value.json.Distinct := by
  rw [Value.json, Json.distinct_obj, attrMembers_eq_map, List.map_map, List.forall_mem_map]
  rfl

theorem distinct_cons : (Value.group (b :: attrs)).json.Distinct ↔
    b.key ∉ attrs.map (·.key) ∧ b.value.json.Distinct ∧ (Value.group attrs).json.Distinct := by
  rw [distinct_group, distinct_group, List.map_cons, List.nodup_cons, List.forall_mem_cons]
  tauto

theorem key_place (h : key ∈ (a.place (name :: path) target).map (·.key)) :
    key = name ∨ key ∈ target.map (·.key) := by
  induction target with
  | nil =>
    rw [Attr.place] at h
    exact .inl (List.mem_singleton.mp h)
  | cons b rest ih =>
    obtain ⟨n, value⟩ := b
    rw [List.map_cons, List.mem_cons]
    cases value with
    | group children =>
      rw [Attr.place] at h
      split at h
      · exact .inr (List.mem_cons.mp h)
      · exact (List.mem_cons.mp h).elim (.inr <| .inl ·) fun h => (ih h).imp_right .inr
    | _ =>
      rw [Attr.place] at h
      · exact (List.mem_cons.mp h).elim (.inr <| .inl ·) fun h => (ih h).imp_right .inr
      · simp

theorem exists_end_of_key (h : key ∈ attrs.map (·.key)) :
    ∃ e ∈ attrEnds attrs, [key] <+: e.path := by
  obtain ⟨b, hb, rfl⟩ := List.mem_map.mp h
  obtain ⟨e, he, hprefix⟩ := exists_end b
  exact ⟨e, mem_attrEnds hb he, hprefix⟩

theorem distinct_cons_place (hne : b.key ≠ name) (h : (Value.group (b :: target)).json.Distinct)
    (hplace : (Value.group (a.place (name :: path) target)).json.Distinct) :
    (Value.group (b :: a.place (name :: path) target)).json.Distinct := by
  rw [distinct_cons] at h ⊢
  exact ⟨fun hkey => (key_place hkey).elim hne h.1, h.2.1, hplace⟩

/-- An attribute put beside what there was repeats no name. -/
theorem distinct_place (ha : a.value.json.Distinct) (htarget : (Value.group target).json.Distinct)
    (hbeside : ∀ e ∈ attrEnds target, Beside e.path (path ++ [a.key])) :
    (Value.group (a.place path target)).json.Distinct := by
  fun_induction Attr.place a path target with
  | case1 target =>
    have hkey : a.key ∉ target.map (·.key) := fun h => by
      obtain ⟨e, he, hprefix⟩ := exists_end_of_key h
      exact (hbeside e he).2 hprefix
    rw [distinct_group] at htarget ⊢
    rw [List.map_append, List.forall_mem_append]
    exact ⟨htarget.1.append (List.nodup_singleton _) (List.disjoint_singleton.mpr hkey), htarget.2,
      List.forall_mem_singleton.mpr ha⟩
  | case2 name path ih =>
    have hnil : (Value.group []).json.Distinct := ⟨List.nodup_nil, trivial⟩
    exact distinct_cons.mpr
      ⟨List.not_mem_nil, ih hnil fun _ he => absurd he List.not_mem_nil, hnil⟩
  | case3 path key children rest ih =>
    rw [distinct_cons] at htarget ⊢
    refine ⟨htarget.1, ih htarget.2.1 fun e he => ?_, htarget.2.2⟩
    have hne : children ≠ [] := by
      rintro rfl
      exact absurd he List.not_mem_nil
    refine (hbeside (e.within [key]) (mem_attrEnds List.mem_cons_self ?_)).cons
    rw [ends_group hne]
    exact List.mem_map_of_mem he
  | case4 name path key children rest hne ih =>
    refine distinct_cons_place hne htarget (ih (distinct_cons.mp htarget).2.2 fun e he => ?_)
    exact hbeside e (attrEnds_subset_cons _ rest he)
  | case5 name path b rest hscalar ih =>
    have hb : Placement.isGroup ⟨[], b⟩ = false := by
      obtain ⟨key, value⟩ := b
      cases value with
      | group children => exact absurd rfl (hscalar key children)
      | _ => rfl
    have hne : b.key ≠ name := by
      rintro rfl
      refine (hbeside ⟨[], b⟩ (mem_attrEnds List.mem_cons_self ?_)).1 ⟨path ++ [a.key], rfl⟩
      rw [Placement.ends_scalar hb]
      exact List.mem_singleton_self _
    refine distinct_cons_place hne htarget (ih (distinct_cons.mp htarget).2.2 fun e he => ?_)
    exact hbeside e (attrEnds_subset_cons _ rest he)

/-- Attributes given beside one another are in a tree without repeated names. -/
theorem distinct_placeAll (hscalar : ∀ p ∈ ps, p.isGroup = false)
    (hps : ∀ p ∈ ps, p.attr.value.json.Distinct)
    (hbeside : ps.Pairwise fun p q => Beside p.path q.path)
    (htarget : (Value.group target).json.Distinct)
    (hbefore : ∀ e ∈ attrEnds target, ∀ p ∈ ps, Beside e.path p.path) :
    (Value.group (placeAll ps target)).json.Distinct := by
  induction ps generalizing target with
  | nil => exact htarget
  | cons p ps ih =>
    rw [List.forall_mem_cons] at hscalar hps
    rw [List.pairwise_cons] at hbeside
    refine ih hscalar.2 hps.2 hbeside.2 ?_ fun e he q hq => ?_
    · exact distinct_place hps.1 htarget fun e he => hbefore e he p List.mem_cons_self
    · have hend := (place_gathers p.attr p.groups target).subset he
      rw [Placement.ends_scalar hscalar.1, List.mem_append, List.mem_singleton] at hend
      rcases hend with hold | rfl
      · exact hbefore e hold q (List.mem_cons_of_mem _ hq)
      · exact hbeside.1 q hq

/-! ## Groups as objects -/

theorem lookup_attrMembers (h : (Value.group attrs).json.Distinct) (ha : a ∈ attrs) :
    (Value.attrMembers attrs).lookup a.key = some a.value.json := by
  rw [Value.json, Json.distinct_obj] at h
  rw [Json.lookup_eq_some_iff h.1, attrMembers_eq_map]
  exact List.mem_map_of_mem ha

/-- Where no name is repeated, a group that holds something is found at its path. -/
theorem at?_inside (h : (Value.group attrs).json.Distinct) (hne : inside groups attrs ≠ []) :
    (Value.group attrs).json.at? groups = some (Value.group (inside groups attrs)).json := by
  induction groups generalizing attrs with
  | nil => rfl
  | cons name groups ih =>
    have hchildren : childrenOf name attrs ≠ [] := fun hnil => by
      rw [inside, hnil, inside_nil] at hne
      exact hne rfl
    have hmem := mem_childrenOf hchildren
    have hbelow := (distinct_group.mp h).2 _ hmem
    rw [Value.json, Json.at?, lookup_attrMembers h hmem]
    exact ih hbelow hne

/-! ## Attributes that stand apart -/

theorem Separate.beside (h : Separate ps) : ps.Pairwise fun p q => Beside p.path q.path := by
  refine (List.pairwise_map.mp h.different).imp_of_mem fun {p q} hp hq hne => ?_
  exact ⟨fun hpq => hne (h.free p hp q hq hpq), fun hqp => hne (h.free q hq p hp hqp).symm⟩

theorem Separate.json (h : Separate ps) : ∀ p ∈ ps, p.attr.value.json.Distinct := by
  intro p hp
  have hscalar := h.scalar p hp
  have hpayload := h.payload p hp
  obtain ⟨groups, key, value⟩ := p
  cases value with
  | group children => exact nomatch hscalar
  | any payload => exact hpayload payload rfl
  | float x =>
    rw [Value.json, Json.ofBinary64]
    split <;> trivial
  | _ => trivial

theorem Separate.distinct (h : Separate ps) : (Value.group (placeAll ps [])).json.Distinct :=
  distinct_placeAll h.scalar h.json h.beside ⟨List.nodup_nil, trivial⟩
    fun _ he => absurd he List.not_mem_nil

/-- What a group ends in, if it is not empty, is inside of it. -/
theorem prefix_groups_of_mem_ends {e : Placement}
    (he : e ∈ Placement.ends ⟨[], ⟨key, .group children⟩⟩) (hscalar : e.isGroup = false) :
    [key] <+: e.groups := by
  cases children with
  | nil =>
    rw [ends_empty, List.mem_singleton] at he
    subst he
    exact nomatch hscalar
  | cons a rest =>
    rw [ends_group (List.cons_ne_nil a rest)] at he
    obtain ⟨e, -, rfl⟩ := List.mem_map.mp he
    exact ⟨e.groups, rfl⟩

/-- A name stands for a group exactly if something is given below it. -/
theorem Separate.isGroup_iff (h : Separate ps) (hb : b ∈ inside groups (placeAll ps []))
    (hnames : ((inside groups (placeAll ps [])).map (·.key)).Nodup) :
    b.value.isGroup = true ↔ opens ps (groups ++ [b.key]) = true := by
  constructor
  case mp =>
    intro hgroup
    obtain ⟨key, value⟩ := b
    cases value with
    | group children =>
      obtain ⟨e, he, -⟩ := exists_end ⟨key, .group children⟩
      have hmem := attrEnds_placeAll_subset h.scalar (within_mem_attrEnds (mem_attrEnds hb he))
      have hscalar := h.scalar _ hmem
      have hprefix := prefix_groups_of_mem_ends he hscalar
      refine List.any_eq_true.mpr ⟨_, hmem, ?_⟩
      rw [List.isPrefixOf_iff_prefix]
      exact (List.prefix_append_right_inj groups).mpr hprefix
    | _ => exact nomatch hgroup
  case mpr =>
    intro hopens
    have hne := (inside_placeAll_ne_nil h.scalar (groups ++ [b.key]) []).mpr (.inr hopens)
    rw [inside_append] at hne
    have hmem := mem_childrenOf hne
    rw [List.inj_on_of_nodup_map hnames hb hmem rfl]
    rfl

/-- Among the members of a group those that are no groups are what is given in it, in order. -/
theorem Separate.filter_members (h : Separate ps)
    (hnames : ((inside groups (placeAll ps [])).map (·.key)).Nodup) :
    (Value.attrMembers (inside groups (placeAll ps []))).filter
        (fun m => !opens ps (groups ++ [m.1])) =
      (ps.filter (·.groups = groups)).map fun p => (p.attr.key, p.attr.value.json) := by
  have hleaves := leaves_inside_placeAll h.scalar groups []
  rw [inside_nil, show leaves [] = [] from rfl, List.nil_append] at hleaves
  have hfilter : (inside groups (placeAll ps [])).filter (fun b => !opens ps (groups ++ [b.key])) =
      leaves (inside groups (placeAll ps [])) :=
    List.filter_congr fun b hb => congrArg (!·) (Bool.eq_iff_iff.mpr (h.isGroup_iff hb hnames)).symm
  calc _ = ((inside groups (placeAll ps [])).filter
          (fun b => !opens ps (groups ++ [b.key]))).map fun a => (a.key, a.value.json) := by
        rw [attrMembers_eq_map, List.filter_map]
        rfl
    _ = _ := by
        rw [hfilter, hleaves, List.map_map]
        rfl

/-! ## Lines -/

theorem Record.headMembers_names (r : Record) (addSource : Bool) :
    ((r.headMembers addSource).map (·.1)).Nodup ∧
      ∀ name ∈ (r.headMembers addSource).map (·.1), name ∈ ["time", "level", "msg", "source"] := by
  rw [Record.headMembers]
  cases r.shownSource addSource with
  | none => simp
  | some s => simp

theorem Record.headMembers_distinct (r : Record) (addSource : Bool) :
    ∀ m ∈ r.headMembers addSource, m.2.Distinct := by
  rw [Record.headMembers, ← Json.distinctMembers_iff]
  cases r.shownSource addSource with
  | none => exact ⟨trivial, trivial, trivial, trivial⟩
  | some s =>
    have hsource : (Json.obj [("file", .str s.file), ("line", .int s.line)]).Distinct :=
      ⟨by simp, trivial, trivial, trivial⟩
    exact ⟨trivial, trivial, hsource, trivial, trivial⟩

theorem Record.jsonObject_eq (r : Record) (addSource : Bool) (attrs : List Attr) :
    r.jsonObject addSource attrs = .obj (r.headMembers addSource ++ Value.attrMembers attrs) := rfl

theorem Separate.distinct_jsonObject (h : Separate ps) (r : Record) (addSource : Bool) :
    (r.jsonObject addSource (placeAll ps [])).Distinct := by
  obtain ⟨hhead, hreserved⟩ := r.headMembers_names addSource
  have htail := h.distinct
  rw [Value.json, Json.distinct_obj] at htail
  rw [Record.jsonObject_eq, Json.distinct_obj, List.map_append, List.forall_mem_append]
  refine ⟨hhead.append htail.1 fun name hname hkey => ?_, r.headMembers_distinct addSource, htail.2⟩
  rw [attrMembers_eq_map, List.map_map] at hkey
  obtain ⟨e, he, rest, hrest⟩ := exists_end_of_key hkey
  refine h.unreserved e (attrEnds_placeAll_subset h.scalar he) name ?_ (hreserved name hname)
  rw [← hrest]
  rfl

theorem opens_groups (hp : p ∈ ps) : opens ps p.groups = true :=
  List.any_eq_true.mpr ⟨p, hp, List.isPrefixOf_iff_prefix.mpr List.prefix_rfl⟩

/-- No group has the name of a member that is no attribute. -/
theorem Separate.lookup_headMembers (h : Separate ps) (r : Record) (addSource : Bool)
    (hopens : opens ps (name :: groups) = true) :
    (r.headMembers addSource).lookup name = none := by
  obtain ⟨p, hp, hprefix⟩ := List.any_eq_true.mp hopens
  obtain ⟨rest, hrest⟩ := List.isPrefixOf_iff_prefix.mp hprefix
  have hname : name ∉ ["time", "level", "msg", "source"] :=
    h.unreserved p hp name (by rw [Placement.path, ← hrest]; rfl)
  refine Option.eq_none_iff_forall_ne_some.mpr fun value hvalue => hname ?_
  exact (r.headMembers_names addSource).2 name (List.mem_map_of_mem (Json.mem_of_lookup hvalue))

/-- A group that something is given in is one object of the line; at the top, the members that are
no attributes come first. -/
theorem Separate.at?_group (h : Separate ps) (r : Record) (addSource : Bool)
    (hgroups : groups = [] ∨ opens ps groups = true) :
    (r.jsonObject addSource (placeAll ps [])).at? groups =
      some (.obj ((if groups = [] then r.headMembers addSource else []) ++
        Value.attrMembers (inside groups (placeAll ps [])))) := by
  cases groups with
  | nil => rfl
  | cons name groups =>
    have hopens := hgroups.resolve_left (List.cons_ne_nil name groups)
    have hinside := (inside_placeAll_ne_nil h.scalar (name :: groups) []).mpr (.inr hopens)
    have hbelow := at?_inside h.distinct hinside
    rw [Value.json, Json.at?] at hbelow
    rw [Record.jsonObject_eq, Json.at?, List.lookup_append,
      h.lookup_headMembers r addSource hopens, Option.none_or, hbelow]
    rfl

/-- The members of a group that are no groups. -/
theorem Separate.filter_group (h : Separate ps) (hgroups : groups = [] ∨ opens ps groups = true) :
    (Value.attrMembers (inside groups (placeAll ps []))).filter
        (fun m => !opens ps (groups ++ [m.1])) =
      (ps.filter (·.groups = groups)).map fun p => (p.attr.key, p.attr.value.json) := by
  refine h.filter_members ?_
  rcases hgroups with rfl | hopens
  · exact (distinct_group.mp h.distinct).1
  · have hinside := (inside_placeAll_ne_nil h.scalar groups []).mpr (.inr hopens)
    exact (distinct_group.mp (h.distinct.at? (at?_inside h.distinct hinside))).1

/-- Every attribute is found at its path. -/
theorem Separate.at?_path (h : Separate ps) (r : Record) (addSource : Bool) (hp : p ∈ ps) :
    (r.jsonObject addSource (placeAll ps [])).at? p.path = some p.attr.value.json := by
  have hgroups : p.groups = [] ∨ opens ps p.groups = true := .inr (opens_groups hp)
  have hat := h.at?_group r addSource hgroups
  have hnames := (Json.distinct_obj.mp ((h.distinct_jsonObject r addSource).at? hat)).1
  have hgiven : (p.attr.key, p.attr.value.json) ∈
      (ps.filter (·.groups = p.groups)).map fun p => (p.attr.key, p.attr.value.json) :=
    List.mem_map.mpr ⟨p, List.mem_filter.mpr ⟨hp, decide_eq_true rfl⟩, rfl⟩
  rw [← h.filter_group hgroups] at hgiven
  have hmember := List.mem_append_right
    (if p.groups = [] then r.headMembers addSource else []) (List.mem_filter.mp hgiven).1
  rw [Placement.path, Json.at?_append, hat, Option.bind_some, Json.at?,
    (Json.lookup_eq_some_iff hnames).mpr hmember]
  rfl

/-- **Groups nest without repeated names.** A leaf that writes JSON is derived by any bindings and
groups. If the attributes bound and those of the record are no groups, no path of groups and key is
that of another or leads through its end, and none starts with a name that every line has, then what
is written is one object in which no object, at any depth, has two members of one name. Each path of
groups below which something is given leads to one object; behind the first members of a line, its
members whose names lead to no group are what is given there, in order. So a reader that keeps only
the last of members of one name finds every attribute at its path, and one that keeps all finds
the object as it was. -/
theorem nested_names_distinct (hf : f.encoding = .json) (hscope : f.scope = .empty)
    (h : Separate (supplied ds r.attrs)) :
    ∃ object : Json,
      (∀ w, ((Handler.format f).derived ds).handle r w =
        if w.allows f.threshold r.level then
          let line := Text.utf8 object.compact ++ [newline]
          (((f.sink.write line w).1.map fun _ => ()).mapError .io, (f.sink.write line w).2)
        else (.ok (), w)) ∧
      object.Distinct ∧
      (∀ groups, groups = [] ∨ opens (supplied ds r.attrs) groups = true → ∃ members,
        object.at? groups =
          some (.obj ((if groups = [] then r.headMembers f.addSource else []) ++ members)) ∧
        members.filter (fun m => !opens (supplied ds r.attrs) (groups ++ [m.1])) =
          ((supplied ds r.attrs).filter (·.groups = groups)).map
            fun p => (p.attr.key, p.attr.value.json)) ∧
      (∀ p ∈ supplied ds r.attrs, object.tree.at? p.path = some p.attr.value.json.tree) ∧
      (object.NoFloat → object.depth < Json.depthLimit →
        Json.decode? (Text.utf8 object.compact) = some object) := by
  refine ⟨r.jsonObject f.addSource (merged ds r.attrs), fun w => ?_,
    h.distinct_jsonObject r f.addSource, fun groups hgroups => ?_, fun p hp => ?_,
    Json.decode?_compact⟩
  · rw [Formatter.handle_derived hscope, hf]
    rfl
  · exact ⟨_, h.at?_group r f.addSource hgroups, h.filter_group hgroups⟩
  · refine (Json.at?_tree (h.distinct_jsonObject r f.addSource) p.path).trans ?_
    rw [h.at?_path r f.addSource hp, Option.map_some]

/-- Groups that are left out, entered again below themselves and shared by what is bound and what is
logged, with a payload read from a text that repeats a name. -/
theorem nested_names_distinct_payload :
    let f : Formatter := ⟨.buffer 0, .json, 0, true, .empty⟩
    let payload := Json.tree (.obj [("n", .int 1), ("m", .null), ("n", .int 2)])
    let ds : List Derivation := [.attrs [⟨"b", .int 1⟩], .group "http",
      .attrs [⟨"status", .int 200⟩], .group "", .group "http", .attrs [⟨"a", .any payload⟩]]
    let r : Record := ⟨⟨0, 0⟩, .info, "hi", [⟨"b", .str "x"⟩], some ⟨"main.rs", 7⟩⟩
    Separate (supplied ds r.attrs) ∧ ∃ (object : Json) (members : List (String × Json)),
      ((((Handler.format f).derived ds).handle r (.initial 0 "")).2.buffers.find? 0).map
        (·.content) = some (Text.utf8 object.compact ++ [newline]) ∧
      object.Distinct ∧
      object.at? ["http"] = some (.obj members) ∧
      members.filter (·.1 ≠ "http") = [("status", .int 200)] ∧
      object.tree.at? ["http", "http", "a"] = some (.obj [("m", .null), ("n", .int 2)]) ∧
      object.tree.at? ["http", "http", "b"] = some (.str "x") := by
  intro f payload ds r
  have hsupplied : supplied ds r.attrs =
      [⟨[], ⟨"b", .int 1⟩⟩, ⟨["http"], ⟨"status", .int 200⟩⟩,
        ⟨["http", "http"], ⟨"a", .any payload⟩⟩, ⟨["http", "http"], ⟨"b", .str "x"⟩⟩] := by
    simp [ds, r, supplied, placements, openGroups]
  have hseparate : Separate (supplied ds r.attrs) := by
    rw [hsupplied]
    exact
      { scalar := by simp [Placement.isGroup, Value.isGroup]
        payload := by simpa using Json.distinct_tree _
        different := by simp [Placement.path]
        free := by simp [Placement.path]
        unreserved := by simp [Placement.path] }
  have hopens : ∀ name, opens (supplied ds r.attrs) ["http", name] = decide (name = "http") := by
    intro name
    rw [hsupplied]
    by_cases hname : name = "http" <;> simp [opens, List.isPrefixOf, hname]
  obtain ⟨object, hhandle, hdistinct, hgroup, hfound, -⟩ :=
    nested_names_distinct (f := f) rfl rfl hseparate
  obtain ⟨members, hat, hmembers⟩ := hgroup ["http"] (.inr (by rw [hsupplied]; decide))
  refine ⟨hseparate, object, members, ?_, hdistinct, hat, ?_, ?_, ?_⟩
  · rw [hhandle]
    rfl
  · simp only [List.singleton_append, hopens] at hmembers
    simpa [hsupplied, Value.json] using hmembers
  · exact hfound ⟨["http", "http"], ⟨"a", .any payload⟩⟩ (by simp [hsupplied])
  · exact hfound ⟨["http", "http"], ⟨"b", .str "x"⟩⟩ (by simp [hsupplied])

end LogPipeline
