import LogPipeline.Record.Basic
import LogPipeline.Text.Lowercase

/-!
# Redaction

A set of keys in lower case, and the replacement of the value of every attribute, at any depth
inside groups, whose key in lower case is in the set.
-/

namespace LogPipeline

/-- Keys in lower case, in ascending order and each once. -/
structure KeySet where
  keys : List String
  deriving DecidableEq, Repr

namespace KeySet

def empty : KeySet := ⟨[]⟩

instance : Inhabited KeySet := ⟨empty⟩

def isEmpty (s : KeySet) : Bool := s.keys.isEmpty

/-- Puts a key into its place in an ascending list, unless it is there. -/
def insertSorted (key : String) : List String → List String
  | [] => [key]
  | k :: rest =>
    if key < k then key :: k :: rest
    else if key = k then k :: rest
    else k :: insertSorted key rest

theorem mem_insertSorted {x key : String} {keys : List String} :
    x ∈ insertSorted key keys ↔ x = key ∨ x ∈ keys := by
  induction keys with
  | nil => simp [insertSorted]
  | cons k rest ih =>
    unfold insertSorted
    split
    · simp
    · split
      · rename_i h
        subst h
        simp
      · rw [List.mem_cons, ih, List.mem_cons]
        exact or_left_comm

/-- Adds names, each in lower case. -/
def add (s : KeySet) (names : List String) : KeySet :=
  ⟨names.foldl (fun keys name => insertSorted (Text.lowercase name) keys) s.keys⟩

/-- Whether the key, in any case, is in the set. -/
def covers (s : KeySet) (key : String) : Bool := s.keys.contains (Text.lowercase key)

end KeySet

/-- What stands in the place of a redacted value. -/
def redactedText : String := "REDACTED"

mutual

/-- Replaces the values of matching keys inside a group. -/
def Value.redact (keys : KeySet) : Value → Value
  | .group attrs => .group (redactAttrs keys attrs)
  | value => value

/-- Replaces the values of matching keys, at any depth inside groups. -/
def redactAttrs (keys : KeySet) : List Attr → List Attr
  | [] => []
  | ⟨key, value⟩ :: rest =>
    ⟨key, if keys.covers key then .str redactedText else value.redact keys⟩ ::
      redactAttrs keys rest

end

end LogPipeline
