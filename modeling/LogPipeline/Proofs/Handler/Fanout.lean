import LogPipeline.Proofs.Redaction.Stage

/-!
# Fan-outs over fan-outs

A tree of fan-outs, however it was put together, behaves as one fan-out over its leaves
(`nested_fanouts_flat`). Every leaf is handed the record once and in order, whether or not one
before it fails, and the result is the first failure of a leaf: an inner fan-out that passes on its
own first failure neither stops those behind it nor hides an earlier one (`handleAll_append`).
-/

namespace LogPipeline

/-- A tree of fan-outs over any handlers, as it is put together. -/
inductive FanTree where
  | leaf (h : Handler)
  /-- A fan-out over children, of which there may be none. -/
  | fanout (children : List FanTree)
  /-- One handler for children, of which there must be some. -/
  | combined (children : List FanTree)

namespace FanTree

mutual

/-- The handler that a tree is put together to, unless somewhere there is nothing to combine. -/
def build : FanTree → Option Handler
  | .leaf h => some h
  | .fanout children => (buildAll children).map .fanout
  | .combined children => (buildAll children).bind Handler.combine

def buildAll : List FanTree → Option (List Handler)
  | [] => some []
  | t :: rest => do return (← t.build) :: (← buildAll rest)

end

mutual

/-- The leaves of a tree from left to right. -/
def leaves : FanTree → List Handler
  | .leaf h => [h]
  | .fanout children | .combined children => leavesAll children

def leavesAll : List FanTree → List Handler
  | [] => []
  | t :: rest => t.leaves ++ leavesAll rest

end

mutual

/-- The tree of the same shape with other leaves. -/
def map (f : Handler → Handler) : FanTree → FanTree
  | .leaf h => .leaf (f h)
  | .fanout children => .fanout (mapAll f children)
  | .combined children => .combined (mapAll f children)

def mapAll (f : Handler → Handler) : List FanTree → List FanTree
  | [] => []
  | t :: rest => t.map f :: mapAll f rest

end

end FanTree

/-- Hands a record to handlers one after the other, each time in the state that the one before left:
what each of them gives, and the state at the end. -/
def inTurn : List Handler → Record → World → List (Except DeliveryError Unit) × World
  | [], _, w => ([], w)
  | h :: rest, r, w =>
    let (result, w) := h.handle r w
    let (results, w) := inTurn rest r w
    (result :: results, w)

/-- The first failure among results, if there is one. -/
def firstFailure : List (Except DeliveryError Unit) → Except DeliveryError Unit
  | [] => .ok ()
  | .error e :: _ => .error e
  | .ok () :: rest => firstFailure rest

/-- The result that a recorder gives. -/
def Recorder.result (k : Recorder) : Except DeliveryError Unit :=
  match k.failure with
  | some e => .error e
  | none => .ok ()

/-- Two handlers that do the same with every record and answer alike, and so do the handlers derived
from them in the same way. -/
def Handler.Interchangeable (h k : Handler) : Prop :=
  ∀ ds : List Derivation,
    (∀ (r : Record) (w : World), (h.derived ds).handle r w = (k.derived ds).handle r w) ∧
      ∀ (w : World) (level : Level), (h.derived ds).enabled w level = (k.derived ds).enabled w level

/-- What has been received under a number. -/
def World.receivedBy (w : World) (n : Nat) : List Received := (w.received.find? n).getD []

variable {h : Handler} {hs : List Handler} {t : FanTree}

/-! ## Several handlers in turn -/

theorem handleAll_eq_inTurn (hs : List Handler) (r : Record) (w : World) :
    Handler.handleAll hs r w = (firstFailure (inTurn hs r w).1, (inTurn hs r w).2) := by
  induction hs generalizing w with
  | nil => rfl
  | cons h hs ih =>
    rw [Handler.handleAll, inTurn]
    simp only [ih]
    cases (h.handle r w).1 <;> rfl

/-- Handlers handed a record in two parts: a failure in the first part counts before one in the
second, and does not keep the second from its turn. -/
theorem handleAll_append (hs ks : List Handler) (r : Record) (w : World) :
    Handler.handleAll (hs ++ ks) r w =
      (match (Handler.handleAll hs r w).1 with
        | .error e => .error e
        | .ok () => (Handler.handleAll ks r (Handler.handleAll hs r w).2).1,
      (Handler.handleAll ks r (Handler.handleAll hs r w).2).2) := by
  induction hs generalizing w with
  | nil => rfl
  | cons h hs ih =>
    simp only [List.cons_append, Handler.handleAll, ih]
    cases (h.handle r w).1 <;> rfl

theorem anyEnabled_eq (w : World) (level : Level) (hs : List Handler) :
    Handler.anyEnabled w level hs = hs.any (·.enabled w level) := by
  induction hs with
  | nil => rfl
  | cons h hs ih => rw [Handler.anyEnabled, ih, List.any_cons]

theorem Handler.deriveAll_eq_map (d : Derivation) (hs : List Handler) :
    Handler.deriveAll d hs = hs.map (Handler.derive d) := by
  induction hs with
  | nil => rfl
  | cons h hs ih => rw [Handler.deriveAll, ih, List.map_cons]

theorem derived_fanout (ds : List Derivation) (hs : List Handler) :
    (Handler.fanout hs).derived ds = .fanout (hs.map (·.derived ds)) := by
  induction ds generalizing hs with
  | nil => exact congrArg Handler.fanout (List.map_id hs).symm
  | cons d ds ih =>
    have hrest : (Handler.fanout hs).derived (d :: ds) = _ := ih (Handler.deriveAll d hs)
    rw [hrest, Handler.deriveAll_eq_map, List.map_map]
    rfl

/-! ## One handler for several -/

/-- A single handler stands for itself. -/
theorem handleAll_singleton (h : Handler) (r : Record) (w : World) :
    Handler.handleAll [h] r w = h.handle r w := by
  rw [Handler.handleAll]
  obtain ⟨result, w'⟩ := h.handle r w
  cases result <;> rfl

theorem handle_combine (hc : Handler.combine hs = some h) (r : Record) (w : World) :
    h.handle r w = Handler.handleAll hs r w := by
  match hs, hc with
  | [_], rfl => exact (handleAll_singleton _ r w).symm
  | _ :: _ :: _, rfl => rw [Handler.handle]

theorem enabled_combine (hc : Handler.combine hs = some h) (w : World) (level : Level) :
    h.enabled w level = hs.any (·.enabled w level) := by
  match hs, hc with
  | [_], rfl => exact (Bool.or_false _).symm
  | _ :: _ :: _, rfl => rw [Handler.enabled, anyEnabled_eq]

/-- What goes into a fan-out goes into a combination. -/
theorem combine_map {f : Handler → Handler} (hf : ∀ hs, f (.fanout hs) = .fanout (hs.map f))
    (hs : List Handler) : Handler.combine (hs.map f) = (Handler.combine hs).map f := by
  match hs with
  | [] | [_] => rfl
  | h :: k :: rest => exact congrArg some (hf (h :: k :: rest)).symm

theorem exists_combine (hne : hs ≠ []) : ∃ h, Handler.combine hs = some h := by
  match hs, hne with
  | [h], _ => exact ⟨h, rfl⟩
  | h :: k :: rest, _ => exact ⟨.fanout (h :: k :: rest), rfl⟩

/-! ## Trees -/

namespace FanTree

theorem buildAll_cons {ts : List FanTree} (hbuilt : buildAll (t :: ts) = some hs) :
    ∃ h ks, t.build = some h ∧ buildAll ts = some ks ∧ hs = h :: ks := by
  obtain ⟨h, hfirst, ks, hrest, heq⟩ : ∃ h, t.build = some h ∧
      ∃ ks, buildAll ts = some ks ∧ h :: ks = hs := by
    simpa [buildAll, Option.bind_eq_some_iff] using hbuilt
  exact ⟨h, ks, hfirst, hrest, heq.symm⟩

mutual

/-- A tree handles a record as its leaves do in turn. -/
theorem handle_build : ∀ (t : FanTree) {h : Handler}, t.build = some h →
    ∀ (r : Record) (w : World), h.handle r w = Handler.handleAll t.leaves r w
  | .leaf h, _, rfl, r, w => (handleAll_singleton h r w).symm
  | .fanout children, _, hbuilt, r, w => by
    obtain ⟨hs, hchildren, rfl⟩ := Option.map_eq_some_iff.mp hbuilt
    rw [Handler.handle, handleAll_build children hchildren, leaves]
  | .combined children, _, hbuilt, r, w => by
    obtain ⟨hs, hchildren, hcombined⟩ := Option.bind_eq_some_iff.mp hbuilt
    rw [handle_combine hcombined, handleAll_build children hchildren, leaves]

theorem handleAll_build : ∀ (ts : List FanTree) {hs : List Handler}, buildAll ts = some hs →
    ∀ (r : Record) (w : World), Handler.handleAll hs r w = Handler.handleAll (leavesAll ts) r w
  | [], _, rfl, _, _ => rfl
  | t :: ts, _, hbuilt, r, w => by
    obtain ⟨h, hs, hfirst, hrest, rfl⟩ := buildAll_cons hbuilt
    have hparts := handleAll_append t.leaves (leavesAll ts) r w
    rw [← handle_build t hfirst, ← handleAll_build ts hrest] at hparts
    exact hparts.symm

end

mutual

/-- A tree is enabled if one of its leaves is. -/
theorem enabled_build (w : World) (level : Level) : ∀ (t : FanTree) {h : Handler},
    t.build = some h → h.enabled w level = t.leaves.any (·.enabled w level)
  | .leaf _, _, rfl => (Bool.or_false _).symm
  | .fanout children, _, hbuilt => by
    obtain ⟨hs, hchildren, rfl⟩ := Option.map_eq_some_iff.mp hbuilt
    rw [Handler.enabled, anyEnabled_eq, any_enabled_build w level children hchildren, leaves]
  | .combined children, _, hbuilt => by
    obtain ⟨hs, hchildren, hcombined⟩ := Option.bind_eq_some_iff.mp hbuilt
    rw [enabled_combine hcombined, any_enabled_build w level children hchildren, leaves]

theorem any_enabled_build (w : World) (level : Level) : ∀ (ts : List FanTree) {hs : List Handler},
    buildAll ts = some hs →
      hs.any (·.enabled w level) = (leavesAll ts).any (·.enabled w level)
  | [], _, rfl => rfl
  | t :: ts, _, hbuilt => by
    obtain ⟨h, hs, hfirst, hrest, rfl⟩ := buildAll_cons hbuilt
    rw [leavesAll, List.any_append, List.any_cons, enabled_build w level t hfirst,
      any_enabled_build w level ts hrest]

end

mutual

/-- What goes into a fan-out, as a derivation does, goes down to the leaves of a tree. -/
theorem build_map {f : Handler → Handler} (hf : ∀ hs, f (.fanout hs) = .fanout (hs.map f)) :
    ∀ t : FanTree, (t.map f).build = t.build.map f
  | .leaf _ => rfl
  | .fanout children => by
    rw [map, build, build, buildAll_mapAll hf children, Option.map_map, Option.map_map]
    exact congrArg (Option.map · _) (funext fun hs => (hf hs).symm)
  | .combined children => by
    rw [map, build, build, buildAll_mapAll hf children, Option.bind_map, Option.map_bind]
    exact congrArg (Option.bind _) (funext (combine_map hf))

theorem buildAll_mapAll {f : Handler → Handler}
    (hf : ∀ hs, f (.fanout hs) = .fanout (hs.map f)) :
    ∀ ts : List FanTree, buildAll (mapAll f ts) = (buildAll ts).map (List.map f)
  | [] => rfl
  | t :: ts => by
    rw [mapAll, buildAll, buildAll, build_map hf t, buildAll_mapAll hf ts]
    cases t.build <;> cases buildAll ts <;> rfl

end

mutual

theorem leaves_map (f : Handler → Handler) : ∀ t : FanTree, (t.map f).leaves = t.leaves.map f
  | .leaf _ => rfl
  | .fanout children | .combined children => leavesAll_mapAll f children

theorem leavesAll_mapAll (f : Handler → Handler) : ∀ ts : List FanTree,
    leavesAll (mapAll f ts) = (leavesAll ts).map f
  | [] => rfl
  | t :: ts => by
    rw [mapAll, leavesAll, leavesAll, List.map_append, leaves_map f t, leavesAll_mapAll f ts]

end

theorem buildAll_leaf (hs : List Handler) : buildAll (hs.map .leaf) = some hs := by
  induction hs with
  | nil => rfl
  | cons h hs ih => rw [List.map_cons, buildAll, ih]; rfl

theorem leavesAll_leaf (hs : List Handler) : leavesAll (hs.map .leaf) = hs := by
  induction hs with
  | nil => rfl
  | cons h hs ih => rw [List.map_cons, leavesAll, ih]; rfl

/-- A tree and the fan-out over its leaves are interchangeable. -/
theorem interchangeable_build (hbuilt : t.build = some h) :
    h.Interchangeable (.fanout t.leaves) := by
  intro ds
  have hderived : (t.map (·.derived ds)).build = some (h.derived ds) := by
    rw [build_map (derived_fanout ds), hbuilt, Option.map_some]
  rw [derived_fanout, ← leaves_map]
  refine ⟨fun r w => ?_, fun w level => ?_⟩
  · rw [handle_build _ hderived, Handler.handle]
  · rw [enabled_build w level _ hderived, Handler.enabled, anyEnabled_eq]

end FanTree

/-! ## Leaves that record -/

theorem firstFailure_recorders (ks : List Recorder) (r : Record) (w : World) :
    firstFailure (inTurn (ks.map .recorder) r w).1 = firstFailure (ks.map Recorder.result) := by
  induction ks generalizing w with
  | nil => rfl
  | cons k ks ih =>
    rw [List.map_cons, List.map_cons, inTurn]
    simp only [Handler.handle, Recorder.handle, Recorder.result]
    cases k.failure with
    | none => exact ih _
    | some e => rfl

theorem receivedBy_recorder (k : Recorder) (r : Record) (w : World) (n : Nat) :
    ((Handler.recorder k).handle r w).2.receivedBy n =
      w.receivedBy n ++ if k.number = n then [⟨k.path, r⟩] else [] := by
  simp only [Handler.handle, Recorder.handle, World.receivedBy, Table.find?_put]
  split
  · rename_i hk
    rw [hk]
    rfl
  · exact (List.append_nil _).symm

/-- Each recorder receives the record once, those of one number in their order. -/
theorem receivedBy_recorders (ks : List Recorder) (r : Record) (w : World) (n : Nat) :
    (inTurn (ks.map .recorder) r w).2.receivedBy n =
      w.receivedBy n ++ (ks.filter (·.number = n)).map fun k => ⟨k.path, r⟩ := by
  induction ks generalizing w with
  | nil => exact (List.append_nil _).symm
  | cons k ks ih =>
    rw [List.map_cons, inTurn]
    simp only [ih, receivedBy_recorder, List.append_assoc, List.filter_cons, decide_eq_true_eq]
    split <;> rfl

/-- **A tree of fan-outs is one fan-out over its leaves.** Of any tree, over any leaves: handling a
record hands it to each leaf once and from left to right, each in the state that the one before it
left, and gives the first failure of a leaf, if there is one. The tree is enabled for a level if one
of its leaves is, and what is derived from it is the tree of the same shape over the leaves derived
in the same way. So it cannot be told from the fan-out over its leaves, and one handler combined of
several cannot be told from the fan-out over them. Leaves that record show it: each of them has
received the record, in order, whichever of them fail. -/
theorem nested_fanouts_flat (hbuilt : t.build = some h) :
    (∀ (r : Record) (w : World),
      h.handle r w = (firstFailure (inTurn t.leaves r w).1, (inTurn t.leaves r w).2)) ∧
    (∀ (w : World) (level : Level), h.enabled w level = t.leaves.any (·.enabled w level)) ∧
    (∀ ds : List Derivation, (t.map (·.derived ds)).build = some (h.derived ds) ∧
      (t.map (·.derived ds)).leaves = t.leaves.map (·.derived ds)) ∧
    h.Interchangeable (.fanout t.leaves) ∧
    (∀ hs : List Handler, hs ≠ [] →
      ∃ k, Handler.combine hs = some k ∧ k.Interchangeable (.fanout hs)) ∧
    ∀ ks : List Recorder, t.leaves = ks.map .recorder → ∀ (r : Record) (w : World),
      (h.handle r w).1 = firstFailure (ks.map Recorder.result) ∧
        ∀ n, (h.handle r w).2.receivedBy n =
          w.receivedBy n ++ (ks.filter (·.number = n)).map fun k => ⟨k.path, r⟩ := by
  have hhandle : ∀ (r : Record) (w : World),
      h.handle r w = (firstFailure (inTurn t.leaves r w).1, (inTurn t.leaves r w).2) :=
    fun r w => (t.handle_build hbuilt r w).trans (handleAll_eq_inTurn _ r w)
  refine ⟨hhandle, fun w level => t.enabled_build w level hbuilt, fun ds => ⟨?_, t.leaves_map _⟩,
    FanTree.interchangeable_build hbuilt, fun hs hne => ?_, fun ks hks r w => ?_⟩
  · rw [FanTree.build_map (derived_fanout ds), hbuilt, Option.map_some]
  · obtain ⟨k, hk⟩ := exists_combine hne
    have htree : (FanTree.combined (hs.map .leaf)).build = some k := by
      rw [FanTree.build, FanTree.buildAll_leaf, Option.bind_some, hk]
    have hsame := FanTree.interchangeable_build htree
    rw [FanTree.leaves, FanTree.leavesAll_leaf] at hsame
    exact ⟨k, hk, hsame⟩
  · rw [hhandle, hks]
    exact ⟨firstFailure_recorders ks r w, receivedBy_recorders ks r w⟩

/-- Fan-outs without children, a child combined alone, and two leaves that fail at different depths:
all three leaves receive the record, and the failure further to the left is the result. -/
theorem nested_fanouts_flat_failing :
    let leaf (name : String) (failure : Option DeliveryError) : FanTree :=
      .leaf (.recorder ⟨0, .debug, failure, [.group name]⟩)
    let t : FanTree := .fanout [.fanout [], .combined [.fanout [leaf "a" none, .fanout []]],
      .combined [.fanout [leaf "b" (some (.encoding "b"))], leaf "c" (some (.encoding "c"))]]
    let r : Record := ⟨⟨0, 0⟩, .info, "ready", [], none⟩
    ∃ h, t.build = some h ∧ (h.handle r (.initial 0 "")).1 = .error (.encoding "b") ∧
      (h.handle r (.initial 0 "")).2.receivedBy 0 =
        [⟨[.group "a"], r⟩, ⟨[.group "b"], r⟩, ⟨[.group "c"], r⟩] := by
  intro leaf t r
  let ks : List Recorder := [⟨0, .debug, none, [.group "a"]⟩,
    ⟨0, .debug, some (.encoding "b"), [.group "b"]⟩,
    ⟨0, .debug, some (.encoding "c"), [.group "c"]⟩]
  have hbuilt : t.build = some _ := rfl
  obtain ⟨hresult, hreceived⟩ :=
    (nested_fanouts_flat hbuilt).2.2.2.2.2 ks rfl r (.initial 0 "")
  exact ⟨_, hbuilt, hresult, hreceived 0⟩

end LogPipeline
