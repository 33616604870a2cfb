import LogPipeline.Handler.Basic
import LogPipeline.Proofs.Record.Merge

/-!
# The redaction stage

What leaves a redaction stage, seen without its shortcuts (`redacted_eq`), and what derivations make
of the stage (`derived_redaction`).
-/

namespace LogPipeline

/-- An empty scope leaves attributes as they are. -/
theorem resolve_empty (attrs : List Attr) : Scope.resolve ⟨[], []⟩ attrs = attrs := by
  cases attrs <;> rfl

mutual

theorem redact_empty : ∀ v : Value, v.redact .empty = v
  | .group attrs => by rw [Value.redact, redactAttrs_empty attrs]
  | .str _ | .int _ | .uint _ | .float _ | .bool _ | .duration _ | .error _ | .any _ => rfl

theorem redactAttrs_empty : ∀ attrs : List Attr, redactAttrs .empty attrs = attrs
  | [] => rfl
  | ⟨key, value⟩ :: rest => by
    rw [redactAttrs, redact_empty value, redactAttrs_empty rest]
    rfl

end

/-- What leaves a redaction stage, whether or not there is anything to do. -/
theorem redacted_eq (keys : KeySet) (scope : Scope) (r : Record) :
    redacted keys scope r = { r with attrs := redactAttrs keys (scope.resolve r.attrs) } := by
  have hkeys : keys.isEmpty = true → keys = .empty := by
    intro h
    obtain ⟨names⟩ := keys
    simpa [KeySet.isEmpty, KeySet.empty] using h
  unfold redacted
  split
  · rename_i h
    obtain ⟨hk, hs⟩ := Bool.and_eq_true_iff.mp h
    obtain ⟨bound, groups⟩ := scope
    obtain ⟨rfl, rfl⟩ : bound = [] ∧ groups = [] := by simpa [Scope.isEmpty] using hs
    rw [hkeys hk, redactAttrs_empty, resolve_empty]
  · split
    · rename_i hk
      rw [hkeys hk, redactAttrs_empty]
    · rfl

/-- The chain that is derived from another step by step. -/
def Handler.derived (h : Handler) (ds : List Derivation) : Handler :=
  ds.foldl (fun h d => Handler.derive d h) h

theorem derived_redaction (ds : List Derivation) (keys : Nat) (scope : Scope) (next : Handler) :
    (Handler.redaction keys scope next).derived ds =
      .redaction keys (ds.foldl Scope.derive scope) next := by
  induction ds generalizing scope with
  | nil => rfl
  | cons d ds ih => exact ih _

/-- A record as a stage derived step by step hands it on. -/
theorem handle_redaction (ds : List Derivation) (keys : Nat) (next : Handler) (r : Record)
    (w : World) :
    (Handler.redaction keys (ds.foldl Scope.derive .empty) next).handle r w =
      next.handle { r with attrs := redactAttrs (w.keys keys) (merged ds r.attrs) } w := by
  rw [Handler.handle, redacted_eq, resolve_derived]

/-- A stage without keys, derived step by step, puts every attribute in its place and does no more. -/
theorem handle_redact {keys : Nat} {w : World} (hkeys : w.keys keys = .empty) (next : Handler)
    (ds : List Derivation) (r : Record) :
    ((next.redact keys).derived ds).handle r w =
      next.handle { r with attrs := merged ds r.attrs } w := by
  rw [Handler.redact, derived_redaction, handle_redaction, hkeys, redactAttrs_empty]

end LogPipeline
