import LogPipeline.Handler.Basic

/-!
# Stages as objects

A stage is a chain that was made once: two stages are the same object exactly if they have the same
number. Where nothing needs to be added, an operation gives back the stage it was given.
-/

namespace LogPipeline

/-- A chain with its identity. -/
structure Stage where
  number : Nat
  handler : Handler

namespace Stage

/-- Makes a stage of a chain. -/
def make (h : Handler) (w : World) : Stage × World :=
  let (n, w) := w.fresh
  (⟨n, h⟩, w)

/-- Whether two stages are the same object. -/
def isSame (a b : Stage) : Bool := a.number == b.number

def derive (s : Stage) (d : Derivation) (w : World) : Stage × World := make (s.handler.derive d) w

/-- Attaches the call stack to records from a level on; no level leaves the stage as it is. -/
def attachStack (next : Stage) (level : Option Level) (maxBytes : Nat) (w : World) :
    Stage × World :=
  match level with
  | none => (next, w)
  | some _ => make (next.handler.attachStack level maxBytes) w

/-- One stage for several; a single one is left as it is. -/
def combine (stages : List Stage) (w : World) : Option Stage × World :=
  match stages with
  | [] => (none, w)
  | [s] => (some s, w)
  | _ =>
    let (s, w) := make (.fanout (stages.map (·.handler))) w
    (some s, w)

end Stage

end LogPipeline
