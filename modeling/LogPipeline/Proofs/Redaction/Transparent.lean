import LogPipeline.Proofs.Handler.Fanout
import LogPipeline.Proofs.Handler.Writes
import LogPipeline.Proofs.Record.Decoding

/-!
# A redaction stage without keys

There are two ways to bind attributes and open groups. A leaf keeps what is bound for itself, and a
fan-out passes a derivation on to all below it, so that each leaf resolves every record anew; a
redaction stage holds everything back and resolves each record before it goes on. In a chain of such
stages both come to the same: every record is handled with all attributes in their places
(`Handler.Fresh.handle_derived`). So a redaction stage without keys can stand in front of the chain or
be left out (`empty_redaction_transparent`).
-/

namespace LogPipeline

namespace Handler

mutual

/-- A chain of fan-outs, redaction stages and leaves that write, in which nothing has been bound and
no group is open. -/
def Fresh : Handler → Prop
  | .format f => f.scope = .empty
  | .recorder _ | .stack _ _ => False
  | .redaction _ scope next => scope = .empty ∧ next.Fresh
  | .fanout children => AllFresh children

def AllFresh : List Handler → Prop
  | [] => True
  | h :: rest => h.Fresh ∧ AllFresh rest

end

end Handler

/-- The record with all that derivations bind, and with its own attributes under the groups that they
open. -/
def Record.resolved (r : Record) (ds : List Derivation) : Record :=
  { r with attrs := merged ds r.attrs }

variable {h : Handler} {w : World} {keys : Nat}

/-! ## Chains derived step by step -/

/-- A leaf resolves a record itself. -/
theorem Formatter.line_resolved {f : Formatter} (hf : f.scope = .empty) (ds : List Derivation)
    (r : Record) :
    ({ f with scope := ds.foldl Scope.derive f.scope } : Formatter).line r =
      f.line (r.resolved ds) := by
  have hresolve : f.scope.resolve (r.resolved ds).attrs = merged ds r.attrs := by
    rw [hf]
    exact resolve_empty _
  rw [Formatter.line, Formatter.line, hresolve, hf, resolve_derived]
  cases f.encoding <;> rfl

/-- A redaction stage with nothing bound redacts the attributes of the record itself. -/
theorem redacted_resolved (set : KeySet) (ds : List Derivation) (r : Record) :
    redacted set (ds.foldl Scope.derive .empty) r = redacted set .empty (r.resolved ds) := by
  rw [redacted_eq, redacted_eq, resolve_derived]
  show _ = { r with attrs := redactAttrs set (Scope.resolve ⟨[], []⟩ (merged ds r.attrs)) }
  rw [resolve_empty]

/-- What a redaction stage without keys hands on. -/
theorem redacted_without_keys (ds : List Derivation) (r : Record) :
    redacted .empty (ds.foldl Scope.derive .empty) r = r.resolved ds := by
  rw [redacted_eq, resolve_derived, redactAttrs_empty]
  rfl

/-! ## Two ways of resolving a record -/

mutual

theorem Handler.Fresh.noRecorder : ∀ h : Handler, h.Fresh → h.NoRecorder
  | .format _, _ => trivial
  | .redaction _ _ next, hh => Handler.Fresh.noRecorder next hh.2
  | .fanout children, hh => Handler.AllFresh.noRecorders children hh

theorem Handler.AllFresh.noRecorders : ∀ hs : List Handler, Handler.AllFresh hs →
    Handler.NoRecorders hs
  | [], _ => trivial
  | h :: rest, hh => ⟨Handler.Fresh.noRecorder h hh.1, Handler.AllFresh.noRecorders rest hh.2⟩

end

mutual

/-- A chain derived step by step handles a record as the chain itself handles it resolved. -/
theorem Handler.Fresh.handle_derived (ds : List Derivation) : ∀ h : Handler, h.Fresh →
    ∀ (r : Record) (w : World), (h.derived ds).handle r w = h.handle (r.resolved ds) w
  | .format f, hf, r, w => by
    rw [derived_format, Handler.handle, Handler.handle, Formatter.handle, Formatter.handle,
      Formatter.line_resolved hf]
    rfl
  | .redaction keys scope next, hh, r, w => by
    obtain ⟨rfl, -⟩ := hh
    rw [derived_redaction, Handler.handle, Handler.handle, redacted_resolved]
  | .fanout children, hh, r, w => by
    rw [derived_fanout]
    exact Handler.AllFresh.handleAll_derived ds children hh r w

theorem Handler.AllFresh.handleAll_derived (ds : List Derivation) : ∀ hs : List Handler,
    Handler.AllFresh hs → ∀ (r : Record) (w : World),
      Handler.handleAll (hs.map (·.derived ds)) r w = Handler.handleAll hs (r.resolved ds) w
  | [], _, _, _ => rfl
  | h :: rest, hh, r, w => by
    have hfirst := Handler.Fresh.handle_derived ds h hh.1 r w
    have hrest := Handler.AllFresh.handleAll_derived ds rest hh.2 r
    rw [List.map_cons, Handler.handleAll, Handler.handleAll, hfirst]
    simp only [hrest]

end

mutual

/-- It makes the same writes of it. -/
theorem Handler.Fresh.writes_derived (ds : List Derivation) : ∀ h : Handler, h.Fresh →
    ∀ (r : Record) (w : World), (h.derived ds).writes r w = h.writes (r.resolved ds) w
  | .format f, hf, r, w => by
    rw [derived_format, Handler.writes, Handler.writes, Formatter.line_resolved hf]
    rfl
  | .redaction keys scope next, hh, r, w => by
    obtain ⟨rfl, -⟩ := hh
    rw [derived_redaction, Handler.writes, Handler.writes, redacted_resolved]
  | .fanout children, hh, r, w => by
    rw [derived_fanout]
    exact Handler.AllFresh.writesAll_derived ds children hh r w

theorem Handler.AllFresh.writesAll_derived (ds : List Derivation) : ∀ hs : List Handler,
    Handler.AllFresh hs → ∀ (r : Record) (w : World),
      Handler.writesAll (hs.map (·.derived ds)) r w = Handler.writesAll hs (r.resolved ds) w
  | [], _, _, _ => rfl
  | h :: rest, hh, r, w => by
    rw [List.map_cons, Handler.writesAll, Handler.writesAll,
      Handler.Fresh.writes_derived ds h hh.1, Handler.Fresh.handle_derived ds h hh.1,
      Handler.AllFresh.writesAll_derived ds rest hh.2]

end

/-- **A redaction stage without keys is transparent.** In front of any chain of fan-outs, redaction
stages and leaves that write, with nothing bound and no group open, such a stage makes no difference:
derived by any bindings and groups, the stage with the chain behind it makes the same writes of every
record, in the same order, as the chain derived in the same way, and it gives the same result and
leaves the same state. Both are what the chain itself makes of the record once everything is in its
place: what the stage resolves at once, each leaf resolves for itself, and each redaction stage inside
the chain before it redacts by its own keys. -/
theorem empty_redaction_transparent (hh : h.Fresh) (hkeys : w.keys keys = .empty)
    (ds : List Derivation) (r : Record) :
    ((h.redact keys).derived ds).writes r w = (h.derived ds).writes r w ∧
      ((h.redact keys).derived ds).handle r w = (h.derived ds).handle r w ∧
      (h.derived ds).handle r w = perform ((h.derived ds).writes r w) w ∧
      (h.derived ds).writes r w = h.writes (r.resolved ds) w := by
  have hwrites := Handler.Fresh.writes_derived ds h hh r w
  have hhandle := Handler.Fresh.handle_derived ds h hh r w
  refine ⟨?_, ?_, ?_, hwrites⟩
  · rw [Handler.redact, derived_redaction, Handler.writes, hkeys, redacted_without_keys, hwrites]
  · exact (handle_redact hkeys h ds r).trans hhandle.symm
  · rw [hwrites, hhandle]
    exact h.handle_eq_perform (Handler.Fresh.noRecorder h hh) _ w

/-- Before a fan-out over a text leaf and a redaction stage with a key of its own. -/
theorem empty_redaction_transparent_nested :
    let h : Handler := .fanout [
      .format ⟨.device 3, .text, 0, true, .empty⟩,
      .redaction 1 .empty (.fanout [.format ⟨.buffer 2, .json, 0, false, .empty⟩])]
    let w : World := (World.initial 0 "").setKeys 1 (KeySet.empty.add ["Password"])
    let ds : List Derivation := [.attrs [⟨"a", .group [⟨"password", .str "x"⟩]⟩], .group "",
      .group "a", .attrs [], .attrs [⟨"n", .int 1⟩], .group "a"]
    h.Fresh ∧ w.keys 0 = .empty ∧ ∀ r : Record,
      ((h.redact 0).derived ds).handle r w = (h.derived ds).handle r w := by
  intro h w ds
  have hh : h.Fresh := ⟨rfl, ⟨rfl, rfl, trivial⟩, trivial⟩
  have hkeys : w.keys 0 = .empty := by rw [World.keys_setKeys, if_neg (by decide)]; rfl
  exact ⟨hh, hkeys, fun r => (empty_redaction_transparent hh hkeys ds r).2.1⟩

end LogPipeline
