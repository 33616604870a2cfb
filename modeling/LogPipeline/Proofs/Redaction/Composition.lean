import LogPipeline.Proofs.Redaction.Exact

/-!
# Redactions one after the other

Redacting by one set of keys and then by another is redacting once by both
(`redactAttrs_redactAttrs`), although the second pass sees groups that the first one has replaced by
the placeholder. So stages can be stacked in any order and any number: together they redact by the
keys of all of them (`redactions_compose`).
-/

namespace LogPipeline

namespace KeySet

/-- The keys of two sets. -/
def union (a b : KeySet) : KeySet := ⟨b.keys.foldl (fun keys key => insertSorted key keys) a.keys⟩

/-- The keys of all of several sets. -/
def unionAll (sets : List KeySet) : KeySet := sets.foldl union empty

variable {a b : KeySet} {key : String}

theorem mem_union : key ∈ (a.union b).keys ↔ key ∈ a.keys ∨ key ∈ b.keys := by
  obtain ⟨present⟩ := a
  obtain ⟨more⟩ := b
  unfold union
  induction more generalizing present with
  | nil => simp
  | cons k more ih =>
    rw [List.foldl_cons, ih, mem_insertSorted, List.mem_cons, or_comm (a := key = k), or_assoc]

theorem mem_unionAll {sets : List KeySet} :
    key ∈ (unionAll sets).keys ↔ ∃ set ∈ sets, key ∈ set.keys := by
  have hfold : ∀ a : KeySet,
      key ∈ (sets.foldl union a).keys ↔ key ∈ a.keys ∨ ∃ set ∈ sets, key ∈ set.keys := by
    induction sets with
    | nil => simp
    | cons set sets ih => simp [ih, mem_union, or_assoc]
  rw [unionAll, hfold]
  simp [empty]

theorem covers_eq_decide (a : KeySet) (key : String) :
    a.covers key = decide (Text.lowercase key ∈ a.keys) := by
  rw [covers, Bool.eq_iff_iff, List.contains_iff_mem, decide_eq_true_eq]

/-- A union covers what either set does. -/
theorem covers_union (a b : KeySet) (key : String) :
    (a.union b).covers key = (a.covers key || b.covers key) := by
  rw [covers_eq_decide, covers_eq_decide, covers_eq_decide, ← Bool.decide_or, decide_eq_decide]
  exact mem_union

/-- Adding names keeps the keys that are there. -/
theorem covers_add (names : List String) (h : a.covers key = true) :
    (a.add names).covers key = true := by
  rw [covers_eq_decide, decide_eq_true_eq] at h ⊢
  exact mem_add.mpr (.inl h)

end KeySet

variable {a b c : KeySet}

/-! ## Two passes -/

mutual

theorem Value.redact_redact (hc : ∀ key, c.covers key = (a.covers key || b.covers key)) :
    ∀ value : Value, (value.redact a).redact b = value.redact c
  | .group attrs => congrArg Value.group (redactAttrs_redactAttrs_of_covers hc attrs)
  | .str _ | .int _ | .uint _ | .float _ | .bool _ | .duration _ | .error _ | .any _ => rfl

theorem redactAttrs_redactAttrs_of_covers
    (hc : ∀ key, c.covers key = (a.covers key || b.covers key)) :
    ∀ attrs : List Attr, redactAttrs b (redactAttrs a attrs) = redactAttrs c attrs
  | [] => rfl
  | ⟨key, value⟩ :: rest => by
    rw [redactAttrs, redactAttrs, redactAttrs, redactAttrs_redactAttrs_of_covers hc rest, hc]
    cases hfirst : a.covers key with
    | true =>
      -- the first pass leaves a scalar, on which the second has nothing to do but hide it again
      cases b.covers key <;> rfl
    | false =>
      cases hsecond : b.covers key with
      | true => rfl
      | false => simp [Value.redact_redact hc value]

end

/-- **Two passes are one by both sets.** -/
theorem redactAttrs_redactAttrs (a b : KeySet) (attrs : List Attr) :
    redactAttrs b (redactAttrs a attrs) = redactAttrs (a.union b) attrs :=
  redactAttrs_redactAttrs_of_covers (KeySet.covers_union a b) attrs

/-- A pass by some of the keys makes no difference before one by all of them. -/
theorem redactAttrs_absorb (h : ∀ key, a.covers key = true → b.covers key = true)
    (attrs : List Attr) : redactAttrs b (redactAttrs a attrs) = redactAttrs b attrs := by
  refine redactAttrs_redactAttrs_of_covers (fun key => ?_) attrs
  cases ha : a.covers key with
  | true => exact h key ha
  | false => rfl

theorem redactAttrs_comm (a b : KeySet) (attrs : List Attr) :
    redactAttrs b (redactAttrs a attrs) = redactAttrs a (redactAttrs b attrs) := by
  rw [redactAttrs_redactAttrs, redactAttrs_redactAttrs]
  refine redactAttrs_congr (fun key => ?_) attrs
  rw [KeySet.covers_union, KeySet.covers_union, Bool.or_comm]

/-! ## Stages -/

/-- Redaction stages one behind the other, the first of them outermost. -/
def Handler.redactAll (next : Handler) (sets : List Nat) : Handler :=
  sets.foldr (fun set h => h.redact set) next

/-- Passes in order are one by the keys of all. -/
theorem foldl_redactAttrs (sets : List KeySet) (attrs : List Attr) :
    sets.foldl (fun attrs set => redactAttrs set attrs) attrs =
      redactAttrs (KeySet.unionAll sets) attrs := by
  have hfold : ∀ a : KeySet, sets.foldl (fun attrs set => redactAttrs set attrs)
      (redactAttrs a attrs) = redactAttrs (sets.foldl KeySet.union a) attrs := by
    induction sets with
    | nil => exact fun a => rfl
    | cons set sets ih => exact fun a => by rw [List.foldl_cons, redactAttrs_redactAttrs, ih]; rfl
  rw [KeySet.unionAll, ← hfold, redactAttrs_empty]

theorem handle_redactAll (next : Handler) (sets : List Nat) (r : Record) (w : World) :
    (next.redactAll sets).handle r w =
      next.handle { r with attrs := redactAttrs (KeySet.unionAll (sets.map w.keys)) r.attrs } w := by
  rw [← foldl_redactAttrs]
  induction sets generalizing r with
  | nil => rfl
  | cons set sets ih =>
    have hstage : (next.redactAll (set :: sets)).handle r w =
        (next.redactAll sets).handle (redacted (w.keys set) ⟨[], []⟩ r) w := rfl
    rw [hstage, ih, redacted_eq, resolve_empty]
    rfl

/-- Stages derived step by step put the attributes in their places first, and then redact by the
keys of all. -/
theorem handle_redactAll_derived (next : Handler) (set : Nat) (sets : List Nat)
    (ds : List Derivation) (r : Record) (w : World) :
    ((next.redactAll (set :: sets)).derived ds).handle r w =
      next.handle
        { r with attrs :=
            redactAttrs (KeySet.unionAll ((set :: sets).map w.keys)) (merged ds r.attrs) } w := by
  have hstages : next.redactAll (set :: sets) = .redaction set .empty (next.redactAll sets) := rfl
  rw [hstages, derived_redaction, handle_redaction, handle_redactAll, ← foldl_redactAttrs,
    ← foldl_redactAttrs]
  rfl

/-- **Stacked redactions compose.** Redacting by one set of keys and then by another is redacting
once by their union, at every depth; so a second pass by the same keys changes nothing and two
passes can be exchanged. Adding names to a set shows nothing that was hidden: what is left with them
depends only on what was left without them. Redaction stages behind each other, with derivations
made on them, do what one redaction by the keys of all of them does, and two stages can be
exchanged. -/
theorem redactions_compose (a b : KeySet) (names : List String) (attrs : List Attr) :
    (∀ key, key ∈ (a.union b).keys ↔ key ∈ a.keys ∨ key ∈ b.keys) ∧
      (∀ sets key, key ∈ (KeySet.unionAll sets).keys ↔ ∃ set ∈ sets, key ∈ set.keys) ∧
      redactAttrs b (redactAttrs a attrs) = redactAttrs (a.union b) attrs ∧
      redactAttrs a (redactAttrs a attrs) = redactAttrs a attrs ∧
      redactAttrs b (redactAttrs a attrs) = redactAttrs a (redactAttrs b attrs) ∧
      (∀ others, redactAttrs a others = redactAttrs a attrs →
        redactAttrs (a.add names) others = redactAttrs (a.add names) attrs) ∧
      ∀ (next : Handler) (ds : List Derivation) (r : Record) (w : World),
        (∀ set sets, ((next.redactAll (set :: sets)).derived ds).handle r w =
          next.handle
            { r with attrs :=
                redactAttrs (KeySet.unionAll ((set :: sets).map w.keys)) (merged ds r.attrs) } w) ∧
          ∀ i j, (((next.redact i).redact j).derived ds).handle r w =
            (((next.redact j).redact i).derived ds).handle r w := by
  refine ⟨fun key => KeySet.mem_union, fun sets key => KeySet.mem_unionAll,
    redactAttrs_redactAttrs a b attrs, redactAttrs_absorb (fun _ h => h) attrs,
    redactAttrs_comm a b attrs, ?_, fun next ds r w => ⟨fun set sets => ?_, fun i j => ?_⟩⟩
  · intro others heq
    have hadd : ∀ key, a.covers key = true → (a.add names).covers key = true :=
      fun key => KeySet.covers_add names
    rw [← redactAttrs_absorb hadd others, heq, redactAttrs_absorb hadd]
  · exact handle_redactAll_derived next set sets ds r w
  · have hstack : ∀ i j, ((next.redact i).redact j).derived ds =
        (next.redactAll [j, i]).derived ds := fun i j => rfl
    rw [hstack, hstack, handle_redactAll_derived, handle_redactAll_derived, ← foldl_redactAttrs,
      ← foldl_redactAttrs]
    exact congrArg (fun attrs => next.handle { r with attrs } w) (redactAttrs_comm _ _ _)

/-- Two trees that differ in a value under a redacted key, before and after a key for the group
around it is added. -/
theorem redactions_compose_password :
    let tree (secret : String) : List Attr :=
      [⟨"user", .group [⟨"Password", .str secret⟩, ⟨"id", .int 7⟩]⟩]
    let keys := KeySet.empty.add ["password"]
    redactAttrs keys (tree "a") = redactAttrs keys (tree "b") ∧
      redactAttrs (keys.add ["USER"]) (tree "a") = redactAttrs (keys.add ["USER"]) (tree "b") := by
  intro tree keys
  have hhidden : redactAttrs keys (tree "a") = redactAttrs keys (tree "b") := by
    have hpassword : keys.covers "Password" = true := by decide +kernel
    simp [tree, redactAttrs, Value.redact, hpassword]
  exact ⟨hhidden, (redactions_compose keys .empty ["USER"] (tree "b")).2.2.2.2.2.1 _ hhidden⟩

end LogPipeline
