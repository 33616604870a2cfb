import LogPipeline.Proofs.Record.Lines
import Mathlib.Data.List.Perm.Subperm

/-!
# Grouping loses and invents nothing

The attributes of a record and those bound before are put into one tree, some into groups that are
there and some into new ones. What the tree ends in, its values that are no groups and its groups
that hold nothing, is what the attributes given end in (`placeAll_gathers`), each below the groups
that were open for it; all that can be missing are groups given empty that have been put to use since
(`Gathers`). So no value is lost, moved or made up, and no group is empty unless it was given so
(`grouping_conserves`).
-/

namespace LogPipeline

/-- The placement with more groups around it. -/
def Placement.within (groups : List String) (p : Placement) : Placement :=
  ⟨groups ++ p.groups, p.attr⟩

mutual

/-- What an attribute ends in: itself, if it is no group or an empty one, and otherwise what the
attributes of the group end in, below its name. -/
def Value.ends (key : String) : Value → List Placement
  | .group attrs =>
    if attrs.isEmpty then [⟨[], ⟨key, .group []⟩⟩] else (attrEnds attrs).map (.within [key])
  | value => [⟨[], ⟨key, value⟩⟩]

/-- What attributes end in, in order, each end with the groups around it. -/
def attrEnds : List Attr → List Placement
  | [] => []
  | ⟨key, value⟩ :: rest => value.ends key ++ attrEnds rest

end

def Placement.isGroup (p : Placement) : Bool := p.attr.value.isGroup

/-- The values that are no groups, each with its key and all groups around it. -/
def scalars (ends : List Placement) : List Placement := ends.filter (!·.isGroup)

/-- The groups that hold nothing. -/
def hollows (ends : List Placement) : List Placement := ends.filter (·.isGroup)

/-- What an attribute ends in below the groups that are open for it. -/
def Placement.ends (p : Placement) : List Placement :=
  (p.attr.value.ends p.attr.key).map (.within p.groups)

/-- All that is given: what derivations bind, with the groups open then, and the attributes of a
record, with the groups that are open at the end. -/
def supplied (ds : List Derivation) (attrs : List Attr) : List Placement :=
  placements [] ds ++ attrs.map (⟨openGroups [] ds, ·⟩)

/-- What attributes given in their places end in. -/
def suppliedEnds (ds : List Derivation) (attrs : List Attr) : List Placement :=
  (supplied ds attrs).flatMap (·.ends)

/-- Ends are others put together, up to empty groups that have been filled. -/
def Gathers (ends others : List Placement) : Prop :=
  ∃ filled, (∀ p ∈ filled, p.isGroup = true) ∧ (ends ++ filled).Perm others

variable {xs ys zs : List Placement} {attrs target children : List Attr} {a : Attr}
  {path names : List String} {key : String} {ds : List Derivation}

/-! ## Gathering -/

theorem Gathers.of_eq (h : xs = ys) : Gathers xs ys := ⟨[], by simp, by simp [h]⟩

theorem Gathers.trans (h : Gathers xs ys) (h' : Gathers ys zs) : Gathers xs zs := by
  obtain ⟨filled, hfilled, hperm⟩ := h
  obtain ⟨more, hmore, hperm'⟩ := h'
  refine ⟨filled ++ more, List.forall_mem_append.mpr ⟨hfilled, hmore⟩, ?_⟩
  rw [← List.append_assoc]
  exact (hperm.append_right more).trans hperm'

theorem Gathers.append_left (h : Gathers xs ys) (zs : List Placement) :
    Gathers (zs ++ xs) (zs ++ ys) := by
  obtain ⟨filled, hfilled, hperm⟩ := h
  refine ⟨filled, hfilled, ?_⟩
  rw [List.append_assoc]
  exact hperm.append_left zs

theorem Gathers.append_right (h : Gathers xs ys) (zs : List Placement) :
    Gathers (xs ++ zs) (ys ++ zs) := by
  obtain ⟨filled, hfilled, hperm⟩ := h
  refine ⟨filled, hfilled, List.Perm.trans ?_ (hperm.append_right zs)⟩
  rw [List.append_assoc, List.append_assoc]
  exact List.perm_append_comm.append_left xs

theorem Gathers.within (h : Gathers xs ys) (groups : List String) :
    Gathers (xs.map (.within groups)) (ys.map (.within groups)) := by
  obtain ⟨filled, hfilled, hperm⟩ := h
  refine ⟨filled.map (.within groups), List.forall_mem_map.mpr hfilled, ?_⟩
  rw [← List.map_append]
  exact hperm.map _

theorem Gathers.subset (h : Gathers xs ys) : xs ⊆ ys := by
  obtain ⟨filled, -, hperm⟩ := h
  exact fun e he => hperm.subset (List.mem_append_left filled he)

/-- The same values that are no groups are among both. -/
theorem Gathers.scalars (h : Gathers xs ys) : (scalars xs).Perm (scalars ys) := by
  obtain ⟨filled, hfilled, hperm⟩ := h
  have hnone : LogPipeline.scalars filled = [] := by
    simpa [LogPipeline.scalars] using hfilled
  have hscalars := hperm.filter (!·.isGroup)
  rw [List.filter_append, show filled.filter (!·.isGroup) = [] from hnone, List.append_nil]
    at hscalars
  exact hscalars

/-- There is no empty group that is not among the others. -/
theorem Gathers.hollows (h : Gathers xs ys) : (hollows xs).Subperm (hollows ys) := by
  obtain ⟨filled, -, hperm⟩ := h
  have hhollows := hperm.filter (·.isGroup)
  rw [List.filter_append] at hhollows
  exact (List.sublist_append_left _ _).subperm.trans hhollows.subperm

/-! ## Ends -/

theorem Placement.within_within (groups more : List String) (p : Placement) :
    (p.within more).within groups = p.within (groups ++ more) := by
  rw [within, within, within, List.append_assoc]

theorem attrEnds_append (as bs : List Attr) :
    attrEnds (as ++ bs) = attrEnds as ++ attrEnds bs := by
  induction as with
  | nil => rfl
  | cons a as ih =>
    obtain ⟨key, value⟩ := a
    rw [List.cons_append, attrEnds, attrEnds, ih, List.append_assoc]

theorem attrEnds_singleton (a : Attr) : attrEnds [a] = Placement.ends ⟨[], a⟩ := by
  obtain ⟨key, value⟩ := a
  rw [attrEnds, attrEnds, List.append_nil, Placement.ends]
  exact (List.map_id _).symm

theorem attrEnds_cons (a : Attr) (rest : List Attr) :
    attrEnds (a :: rest) = Placement.ends ⟨[], a⟩ ++ attrEnds rest := by
  rw [← List.singleton_append, attrEnds_append, attrEnds_singleton]

theorem mem_attrEnds {e : Placement} (ha : a ∈ attrs) (he : e ∈ Placement.ends ⟨[], a⟩) :
    e ∈ attrEnds attrs := by
  obtain ⟨before, after, rfl⟩ := List.append_of_mem ha
  rw [attrEnds_append, attrEnds_cons]
  exact List.mem_append_right _ (List.mem_append_left _ he)

theorem attrEnds_subset_cons (b : Attr) (rest : List Attr) :
    attrEnds rest ⊆ attrEnds (b :: rest) := by
  rw [attrEnds_cons]
  exact List.subset_append_right _ _

/-- The ends of a group that holds something. -/
theorem ends_group (h : children ≠ []) (key : String) :
    Placement.ends ⟨[], ⟨key, .group children⟩⟩ = (attrEnds children).map (.within [key]) := by
  have hempty : children.isEmpty = false := by simpa using h
  rw [← attrEnds_singleton, attrEnds, attrEnds, Value.ends, hempty, List.append_nil]
  rfl

theorem Placement.ends_scalar {p : Placement} (hp : p.isGroup = false) : p.ends = [p] := by
  obtain ⟨groups, key, value⟩ := p
  cases value with
  | group children => exact nomatch hp
  | _ => simp [Placement.ends, Value.ends, Placement.within]

theorem ends_empty (key : String) :
    Placement.ends ⟨[], ⟨key, .group []⟩⟩ = [⟨[], ⟨key, .group []⟩⟩] := by
  simp [Placement.ends, Value.ends, Placement.within]

/-- The ends inside a group are all its ends, unless it is empty. -/
theorem gathers_group (key : String) (children : List Attr) :
    Gathers ((attrEnds children).map (.within [key]))
      (Placement.ends ⟨[], ⟨key, .group children⟩⟩) := by
  cases children with
  | nil => exact ⟨[⟨[], ⟨key, .group []⟩⟩], by simp [Placement.isGroup, Value.isGroup], .refl _⟩
  | cons a rest => exact .of_eq (ends_group (List.cons_ne_nil a rest) key).symm

theorem Placement.ends_within (path : List String) (key : String) (a : Attr) :
    Placement.ends ⟨key :: path, a⟩ = (Placement.ends ⟨path, a⟩).map (.within [key]) := by
  rw [Placement.ends, Placement.ends, List.map_map]
  exact List.map_congr_left fun p _ => (p.within_within [key] path).symm

/-! ## Placing -/

theorem place_ne_nil (a : Attr) (path : List String) (target : List Attr) :
    a.place path target ≠ [] := by
  fun_cases Attr.place a path target with
  | case1 target => simp
  | case2 | case3 | case4 | case5 => exact List.cons_ne_nil _ _

/-- An attribute put in its place is added to what there was. -/
theorem place_gathers (a : Attr) (path : List String) (target : List Attr) :
    Gathers (attrEnds (a.place path target)) (attrEnds target ++ Placement.ends ⟨path, a⟩) := by
  fun_induction Attr.place a path target with
  | case1 target =>
    rw [attrEnds_append, attrEnds_singleton]
    exact .of_eq rfl
  | case2 name path ih =>
    rw [attrEnds_singleton, ends_group (place_ne_nil a path []), Placement.ends_within]
    exact ih.within [name]
  | case3 path key children rest ih =>
    -- the group may have been empty until now
    rw [attrEnds_cons, attrEnds_cons, ends_group (place_ne_nil a path children),
      Placement.ends_within]
    have hgroup := (gathers_group key children).append_right
      ((Placement.ends ⟨path, a⟩).map (.within [key]))
    have hinside := (ih.within [key]).trans ((Gathers.of_eq (List.map_append ..)).trans hgroup)
    have hall := hinside.append_right (attrEnds rest)
    obtain ⟨filled, hfilled, hperm⟩ := hall
    refine ⟨filled, hfilled, hperm.trans ?_⟩
    rw [List.append_assoc, List.append_assoc]
    exact List.perm_append_comm.append_left _
  | case4 name path key children rest hne ih =>
    rw [attrEnds_cons, attrEnds_cons, List.append_assoc]
    exact ih.append_left _
  | case5 name path b rest hscalar ih =>
    rw [attrEnds_cons, attrEnds_cons, List.append_assoc]
    exact ih.append_left _

/-- Attributes put in their places one after the other are all there. -/
theorem placeAll_gathers (ps : List Placement) (target : List Attr) :
    Gathers (attrEnds (placeAll ps target)) (attrEnds target ++ ps.flatMap (·.ends)) := by
  induction ps generalizing target with
  | nil => exact .of_eq (List.append_nil _).symm
  | cons p ps ih =>
    have hfirst := (place_gathers p.attr p.groups target).append_right (ps.flatMap (·.ends))
    refine (ih (p.attr.place p.groups target)).trans (hfirst.trans (.of_eq ?_))
    rw [List.flatMap_cons, List.append_assoc]

theorem merged_gathers (ds : List Derivation) (attrs : List Attr) :
    Gathers (attrEnds (merged ds attrs)) (suppliedEnds ds attrs) :=
  placeAll_gathers (supplied ds attrs) []

/-! ## Groups that are only opened -/

theorem placements_append_groups (groups : List String) (ds : List Derivation)
    (names : List String) :
    placements groups (ds ++ names.map .group) = placements groups ds := by
  induction ds generalizing groups with
  | nil =>
    induction names generalizing groups with
    | nil => rfl
    | cons name names ih => exact ih _
  | cons d ds ih =>
    cases d with
    | attrs as => exact congrArg (as.map (⟨groups, ·⟩) ++ ·) (ih groups)
    | group name => exact ih _

/-- Groups that nothing is put under are not made. -/
theorem merged_append_groups (ds : List Derivation) (names : List String) :
    merged (ds ++ names.map .group) [] = merged ds [] := by
  rw [merged, merged, placements_append_groups, List.map_nil, List.map_nil]

/-! ## Stages -/

/-- A leaf with nothing bound, derived step by step, by what it makes of a record. -/
theorem handle_format (f : Formatter) (hscope : f.scope = .empty) (ds : List Derivation)
    (r : Record) (w : World) :
    ((Handler.format f).derived ds).handle r w =
      if w.allows f.threshold r.level then
        let written := f.sink.write (f.encoding.line r f.addSource (merged ds r.attrs)) w
        ((written.1.map fun _ => ()).mapError .io, written.2)
      else (.ok (), w) := by
  rw [Formatter.handle_derived hscope, Encoding.line_eq]

/-- **Grouping loses and invents nothing.** A leaf, or a redaction stage without keys, is derived by
any bindings and groups. What the leaf writes of a record, and what the stage hands on of it, has
attributes in which the values that are no groups are those of all attributes bound and of the
record's own, each as often as it was given, with its key and with the groups around it that it was
given in, below those that were open when it was bound or, for the record's own, at the end. A group
that holds nothing was given so, below the same groups. Groups that are opened and then not used make
no difference. -/
theorem grouping_conserves {f : Formatter} (hscope : f.scope = .empty) (ds : List Derivation)
    (r : Record) :
    ∃ attrs,
      (∀ w, ((Handler.format f).derived ds).handle r w =
        if w.allows f.threshold r.level then
          let written := f.sink.write (f.encoding.line r f.addSource attrs) w
          ((written.1.map fun _ => ()).mapError .io, written.2)
        else (.ok (), w)) ∧
      (∀ keys w, w.keys keys = .empty → ∀ next : Handler,
        ((next.redact keys).derived ds).handle r w = next.handle { r with attrs } w) ∧
      (scalars (attrEnds attrs)).Perm (scalars (suppliedEnds ds r.attrs)) ∧
      (hollows (attrEnds attrs)).Subperm (hollows (suppliedEnds ds r.attrs)) ∧
      (r.attrs = [] → ∀ (names : List String) (h : Handler) (w : World),
        h = .format f ∨ (∃ keys next, h = .redact next keys ∧ w.keys keys = .empty) →
          (h.derived (ds ++ names.map .group)).handle r w = (h.derived ds).handle r w) := by
  have hgathers := merged_gathers ds r.attrs
  refine ⟨merged ds r.attrs, handle_format f hscope ds r,
    fun keys w hkeys next => handle_redact hkeys next ds r, hgathers.scalars, hgathers.hollows, ?_⟩
  rintro hr names h w (rfl | ⟨keys, next, rfl, hkeys⟩)
  · rw [handle_format f hscope, handle_format f hscope, hr, merged_append_groups]
  · rw [handle_redact hkeys, handle_redact hkeys, hr, merged_append_groups]

/-- Two groups of one name, of which the first is given empty and filled later, and a group that stays
empty. -/
theorem grouping_conserves_filled :
    let f : Formatter := ⟨.buffer 0, .text, 0, false, .empty⟩
    let ds : List Derivation := [.group "http", .attrs [⟨"a", .group []⟩, ⟨"b", .group []⟩,
      ⟨"b", .group [⟨"n", .int 1⟩]⟩], .group "", .attrs [], .group "b", .attrs [⟨"c", .int 2⟩]]
    let r : Record := ⟨⟨0, 0⟩, .info, "hi", [⟨"n", .int 3⟩], none⟩
    f.scope = .empty ∧ (World.initial 0 "").keys 7 = .empty ∧ ∃ attrs,
      (∀ next : Handler, ((next.redact 7).derived ds).handle r (.initial 0 "") =
        next.handle { r with attrs } (.initial 0 "")) ∧
      (scalars (attrEnds attrs)).Perm
        [⟨["http", "b"], ⟨"n", .int 1⟩⟩, ⟨["http", "b"], ⟨"c", .int 2⟩⟩,
          ⟨["http", "b"], ⟨"n", .int 3⟩⟩] ∧
      (hollows (attrEnds attrs)).Subperm
        [⟨["http"], ⟨"a", .group []⟩⟩, ⟨["http"], ⟨"b", .group []⟩⟩] := by
  intro f ds r
  have hkeys : (World.initial 0 "").keys 7 = .empty := rfl
  obtain ⟨attrs, -, hstage, hscalars, hhollows, -⟩ := grouping_conserves (f := f) rfl ds r
  exact ⟨rfl, hkeys, attrs, hstage 7 _ hkeys, hscalars, hhollows⟩

end LogPipeline
