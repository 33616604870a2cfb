import LogPipeline.Level
import LogPipeline.Record.Value
import LogPipeline.Time

/-!
# Log records

One event on its way through a chain. `mergeAt` puts attributes under a path of groups: into the
groups of that path that are there already, and into new ones at the end otherwise.
-/

namespace LogPipeline

/-- Where in a program a record was made. -/
structure Source where
  file : String
  line : Nat
  deriving DecidableEq, Repr

/-- The source as `file:line`. -/
def Source.text (s : Source) : String := s.file ++ ":" ++ toString s.line

/-- One event. -/
structure Record where
  timestamp : Timestamp
  level : Level
  message : String
  attrs : List Attr
  source : Option Source
  deriving Repr

/-- The first attribute with the key. -/
def Record.attr? (r : Record) (key : String) : Option Value :=
  (r.attrs.find? (·.key == key)).map (·.value)

/-- The record with more attributes after its own. -/
def Record.append (r : Record) (attrs : List Attr) : Record := { r with attrs := r.attrs ++ attrs }

/-- Equality of records, by the equality of their values. -/
def Record.same (a b : Record) : Bool :=
  a.timestamp == b.timestamp && a.level == b.level && a.message == b.message &&
  Value.sameAttrs a.attrs b.attrs && a.source == b.source

/-- Replaces the attributes of the first group with the key, if there is one. -/
def updateGroup (key : String) (f : List Attr → List Attr) : List Attr → Option (List Attr)
  | [] => none
  | a :: rest =>
    match a.value with
    | .group children =>
      if a.key = key then some (⟨key, .group (f children)⟩ :: rest)
      else (updateGroup key f rest).map (a :: ·)
    | _ => (updateGroup key f rest).map (a :: ·)

/-- Puts attributes that are not empty under a path of groups. -/
def insertAt : List String → List Attr → List Attr → List Attr
  | [], attrs, target => target ++ attrs
  | name :: path, attrs, target =>
    (updateGroup name (insertAt path attrs) target).getD
      (target ++ [⟨name, .group (insertAt path attrs [])⟩])

/-- Puts attributes under a path of groups. Nothing is inserted, and no group made, for no
attributes. -/
def mergeAt (path : List String) (attrs target : List Attr) : List Attr :=
  if attrs.isEmpty then target else insertAt path attrs target

end LogPipeline
