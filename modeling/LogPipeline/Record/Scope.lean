import LogPipeline.Record.Basic

/-!
# Scopes

What a derived stage of a chain adds to every record: attributes bound earlier, each already under
the groups that were open then, and the groups that are open now.
-/

namespace LogPipeline

/-- Bound attributes and open groups. -/
structure Scope where
  bound : List Attr
  groups : List String
  deriving Repr

/-- One step by which a stage is derived from another. -/
inductive Derivation where
  | attrs (attrs : List Attr)
  | group (name : String)
  deriving Repr

namespace Scope

/-- Nothing is bound and no group is open. -/
def empty : Scope := ⟨[], []⟩

instance : Inhabited Scope := ⟨empty⟩

def isEmpty (s : Scope) : Bool := s.bound.isEmpty && s.groups.isEmpty

/-- Binds attributes under the open groups. -/
def bind (s : Scope) (attrs : List Attr) : Scope :=
  { s with bound := mergeAt s.groups attrs s.bound }

/-- Opens a group; a group without a name is none. -/
def enter (s : Scope) (name : String) : Scope :=
  if name.isEmpty then s else { s with groups := s.groups ++ [name] }

/-- One step of derivation. -/
def derive (s : Scope) : Derivation → Scope
  | .attrs attrs => s.bind attrs
  | .group name => s.enter name

/-- The attributes of a record as they leave the scope: what is bound, and the record's own under
the open groups. -/
def resolve (s : Scope) (attrs : List Attr) : List Attr := mergeAt s.groups attrs s.bound

end Scope

end LogPipeline
