/-!
# Tables of numbered values

A table holds at most one value for each number. `find?_put` says all there is to know about
putting a value in.
-/

namespace LogPipeline

/-- Values by number. -/
structure Table (α : Type) where
  rows : List (Nat × α)
  deriving Repr

namespace Table

variable {α : Type}

def empty : Table α := ⟨[]⟩

instance : Inhabited (Table α) := ⟨empty⟩

/-- The value with the number. -/
def find? (t : Table α) (i : Nat) : Option α := t.rows.lookup i

/-- Replaces the value of a number in the rows, or adds a row at the end. -/
def putRow (i : Nat) (a : α) : List (Nat × α) → List (Nat × α)
  | [] => [(i, a)]
  | (j, b) :: rest => if i = j then (i, a) :: rest else (j, b) :: putRow i a rest

/-- Gives the number a value, in the place of one that it had. -/
def put (t : Table α) (i : Nat) (a : α) : Table α := ⟨putRow i a t.rows⟩

theorem lookup_putRow (i j : Nat) (a : α) (rows : List (Nat × α)) :
    (putRow i a rows).lookup j = if i = j then some a else rows.lookup j := by
  induction rows with
  | nil =>
    by_cases h : i = j
    · simp [putRow, h]
    · simp [putRow, h, List.lookup_cons, show (j == i) = false from beq_false_of_ne (Ne.symm h)]
  | cons row rest ih =>
    obtain ⟨k, b⟩ := row
    by_cases h : i = k
    · subst h
      by_cases hj : i = j
      · simp [putRow, hj]
      · simp [putRow, hj, List.lookup_cons, show (j == i) = false from beq_false_of_ne (Ne.symm hj)]
    · by_cases hj : j = k
      · subst hj; simp [putRow, h]
      · simp [putRow, h, List.lookup_cons, show (j == k) = false from beq_false_of_ne hj, ih]

@[simp] theorem find?_put (t : Table α) (i j : Nat) (a : α) :
    (t.put i a).find? j = if i = j then some a else t.find? j :=
  lookup_putRow i j a t.rows

@[simp] theorem find?_empty (i : Nat) : (empty : Table α).find? i = none := rfl

end Table

end LogPipeline
