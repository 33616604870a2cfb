import LogPipeline.Proofs.Redaction.Stage
import Mathlib.Data.List.Forall2

/-!
# What redaction rewrites

A redaction stage hands on every record once, with all bound attributes merged into it, and in what
it hands on exactly the attributes differ whose key is in the set of keys of that moment
(`redaction_exact`). `Attr.RedactsTo` says what becomes of an attribute, down to the leaves of its
groups; `namesKept` says which names are in the set after any calls on it, wherever derivations of
the stage come between them.
-/

namespace LogPipeline

/-- What an attribute becomes when the keys in lower case are redacted: under a matching key, group
or not, the placeholder; otherwise a scalar stays, and a group keeps its attributes in order, each
being what it becomes itself. -/
inductive Attr.RedactsTo (keys : List String) : Attr → Attr → Prop where
  | hidden {key : String} {value : Value} : Text.lowercase key ∈ keys →
      RedactsTo keys ⟨key, value⟩ ⟨key, .str "REDACTED"⟩
  | scalar {key : String} {value : Value} : Text.lowercase key ∉ keys → value.isGroup = false →
      RedactsTo keys ⟨key, value⟩ ⟨key, value⟩
  | group {key : String} {as bs : List Attr} : Text.lowercase key ∉ keys →
      List.Forall₂ (RedactsTo keys) as bs → RedactsTo keys ⟨key, .group as⟩ ⟨key, .group bs⟩

/-- What happens around a stage before a record comes: calls on its set of keys, and derivations. -/
inductive StageStep where
  /-- Adds names; that the set had others before makes no difference to them. -/
  | set (names : List String)
  | add (names : List String)
  | clear
  | derive (d : Derivation)

/-- One step for a chain and for the set of keys with the number. -/
def StageStep.apply (keys : Nat) (st : Handler × World) : StageStep → Handler × World
  | .set names | .add names => (st.1, st.2.setKeys keys ((st.2.keys keys).add names))
  | .clear => (st.1, st.2.setKeys keys .empty)
  | .derive d => (st.1.derive d, st.2)

/-- The names in the set after a step. -/
def StageStep.kept (names : List String) : StageStep → List String
  | .set more | .add more => names ++ more
  | .clear => []
  | .derive _ => names

/-- The names that were added since the set was last cleared. -/
def namesKept (steps : List StageStep) : List String := steps.foldl StageStep.kept []

def StageStep.derivation? : StageStep → Option Derivation
  | .derive d => some d
  | _ => none

/-- The derivations among the steps. -/
def derivations (steps : List StageStep) : List Derivation := steps.filterMap (·.derivation?)

variable {w : World} {set : Nat} {names : List String} {keys keys' : KeySet}

/-! ## The set of keys -/

theorem KeySet.mem_add {k : String} : k ∈ (keys.add names).keys ↔
    k ∈ keys.keys ∨ k ∈ names.map Text.lowercase := by
  obtain ⟨present⟩ := keys
  unfold KeySet.add
  induction names generalizing present with
  | nil => simp
  | cons name names ih =>
    rw [List.foldl_cons, ih, mem_insertSorted, List.map_cons, List.mem_cons, or_comm (a := k = _),
      or_assoc]

/-- A set with the names in lower case and no others. -/
def KeySet.Holds (keys : KeySet) (names : List String) : Prop :=
  ∀ k, k ∈ keys.keys ↔ k ∈ names.map Text.lowercase

theorem KeySet.Holds.covers_iff (h : keys.Holds names) (key : String) :
    keys.covers key = true ↔ Text.lowercase key ∈ names.map Text.lowercase := by
  rw [KeySet.covers, List.contains_iff_mem, h]

/-- The steps so far: which names the set holds, and how the stage came to be. -/
theorem foldl_apply (steps : List StageStep) (h : Handler) (hset : (w.keys set).Holds names) :
    (((steps.foldl (StageStep.apply set) (h, w)).2.keys set).Holds
        (steps.foldl StageStep.kept names)) ∧
      (steps.foldl (StageStep.apply set) (h, w)).1 = h.derived (derivations steps) := by
  induction steps generalizing h w names with
  | nil => exact ⟨hset, rfl⟩
  | cons step steps ih =>
    have hadd (more : List String) :
        ((w.setKeys set ((w.keys set).add more)).keys set).Holds (names ++ more) := by
      intro k
      rw [World.keys_setKeys, if_pos rfl, KeySet.mem_add, hset, List.map_append, List.mem_append]
    cases step with
    | set more => exact ih h (hadd more)
    | add more => exact ih h (hadd more)
    | clear =>
      refine ih h fun k => ?_
      rw [World.keys_setKeys, if_pos rfl]
      rfl
    | derive d => exact ih (h.derive d) hset

/-! ## Attributes -/

mutual

theorem Value.redact_redactsTo (hkeys : keys.Holds names) : ∀ (value : Value) (key : String),
    Text.lowercase key ∉ names.map Text.lowercase →
      Attr.RedactsTo (names.map Text.lowercase) ⟨key, value⟩ ⟨key, value.redact keys⟩
  | .group attrs, _, hkey => .group hkey (redactAttrs_redactsTo hkeys attrs)
  | .str _, _, hkey | .int _, _, hkey | .uint _, _, hkey | .float _, _, hkey | .bool _, _, hkey
  | .duration _, _, hkey | .error _, _, hkey | .any _, _, hkey => .scalar hkey rfl

/-- Redaction rewrites each attribute as it should, in its place. -/
theorem redactAttrs_redactsTo (hkeys : keys.Holds names) : ∀ attrs : List Attr,
    List.Forall₂ (Attr.RedactsTo (names.map Text.lowercase)) attrs (redactAttrs keys attrs)
  | [] => .nil
  | ⟨key, value⟩ :: rest => by
    rw [redactAttrs]
    refine .cons ?_ (redactAttrs_redactsTo hkeys rest)
    split
    · rename_i hcovers
      exact .hidden ((hkeys.covers_iff key).mp hcovers)
    · rename_i hcovers
      exact Value.redact_redactsTo hkeys value key (mt (hkeys.covers_iff key).mpr hcovers)

end

mutual

theorem Value.redact_congr (hcovers : ∀ key, keys'.covers key = keys.covers key) :
    ∀ value : Value, value.redact keys' = value.redact keys
  | .group attrs => congrArg Value.group (redactAttrs_congr hcovers attrs)
  | .str _ | .int _ | .uint _ | .float _ | .bool _ | .duration _ | .error _ | .any _ => rfl

/-- Two sets that cover the same keys redact alike. -/
theorem redactAttrs_congr (hcovers : ∀ key, keys'.covers key = keys.covers key) :
    ∀ attrs : List Attr, redactAttrs keys' attrs = redactAttrs keys attrs
  | [] => rfl
  | ⟨key, value⟩ :: rest => by
    rw [redactAttrs, redactAttrs, hcovers, Value.redact_congr hcovers value,
      redactAttrs_congr hcovers rest]

end

theorem merged_of_nothing {ds : List Derivation} (hbound : placements [] ds = [])
    (hopen : openGroups [] ds = []) (attrs : List Attr) : merged ds attrs = attrs := by
  have hscope : ds.foldl Scope.derive .empty = ⟨[], []⟩ := by
    rw [foldl_derive, Scope.empty, hbound, hopen]
    rfl
  rw [← resolve_derived, hscope, resolve_empty]

/-- **Redaction rewrites exactly the matching attributes.** A redaction stage is made over a new
set of keys; then names are added to the set, the set is cleared and the stage is derived from, in
any order. Afterwards the set holds the names added since it was last cleared, in lower case. A
record that comes then is handed on once, with everything but its attributes as it is and these
merged with what is bound, under their groups; in the merged tree the attributes with a matching key
read `REDACTED`, at any depth inside groups and groups among them, and all others are kept in their
places. This depends on the set only through what it holds when the record comes. With no names, and
nothing bound and no group open, it is the very record that is handed on. -/
theorem redaction_exact (next : Handler) (w₀ : World) (steps : List StageStep) (r : Record) :
    let set := w₀.newKeys.1
    let prepared := steps.foldl (StageStep.apply set) (next.redact set, w₀.newKeys.2)
    (prepared.2.keys set).Holds (namesKept steps) ∧
      ∃ attrs,
        List.Forall₂ (Attr.RedactsTo ((namesKept steps).map Text.lowercase))
            (merged (derivations steps) r.attrs) attrs ∧
          (∀ w, (w.keys set).Holds (namesKept steps) →
            prepared.1.handle r w = next.handle { r with attrs } w) ∧
          (namesKept steps = [] → placements [] (derivations steps) = [] →
            openGroups [] (derivations steps) = [] → { r with attrs } = r) := by
  intro set prepared
  have hnew : (w₀.newKeys.2.keys set).Holds [] := by
    intro k
    rw [show w₀.newKeys.2.keys set = .empty from by simp [set, World.newKeys]]
    rfl
  obtain ⟨hset, hstage⟩ := foldl_apply steps (next.redact set) hnew
  rw [Handler.redact, derived_redaction] at hstage
  have hnames : KeySet.Holds ⟨(namesKept steps).map Text.lowercase⟩ (namesKept steps) :=
    fun k => Iff.rfl
  refine ⟨hset, redactAttrs ⟨(namesKept steps).map Text.lowercase⟩
    (merged (derivations steps) r.attrs), redactAttrs_redactsTo hnames _, ?_, ?_⟩
  · intro w hw
    have hcovers (key : String) : (w.keys set).covers key =
        KeySet.covers ⟨(namesKept steps).map Text.lowercase⟩ key := by
      rw [Bool.eq_iff_iff, hw.covers_iff, hnames.covers_iff]
    rw [show prepared.1 = _ from hstage, handle_redaction, redactAttrs_congr hcovers]
  · intro hkept hbound hopen
    rw [merged_of_nothing hbound hopen, hkept, List.map_nil]
    exact congrArg (fun attrs => { r with attrs }) (redactAttrs_empty r.attrs)

end LogPipeline
