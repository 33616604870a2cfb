import LogPipeline.Number.Binary64

/-!
# JSON values

Members of an object keep their order and may repeat a name. `tree` is the same value as a tree
with sorted objects, in which the last of several members of one name stands.
-/

namespace LogPipeline

/-- A JSON value as it is written. -/
inductive Json where
  | null
  | bool (b : Bool)
  | int (n : Int)
  | float (x : Binary64)
  | str (s : String)
  | arr (elements : List Json)
  | obj (members : List (String × Json))
  deriving Repr, Inhabited

namespace Json

/-- A floating point number, or null where JSON has no notation for it. -/
def ofBinary64 (x : Binary64) : Json := if x.isFinite then .float x else .null

/-- Puts a member into an object sorted by name, in the place of one of the same name. -/
def insertMember (name : String) (value : Json) : List (String × Json) → List (String × Json)
  | [] => [(name, value)]
  | (n, v) :: rest =>
    if name < n then (name, value) :: (n, v) :: rest
    else if name = n then (name, value) :: rest
    else (n, v) :: insertMember name value rest

/-- The object with its members sorted by name, the last of each name. -/
def sortMembers (members : List (String × Json)) : List (String × Json) :=
  members.foldl (fun sorted m => insertMember m.1 m.2 sorted) []

mutual

/-- The value with every object sorted by name and without repeated names. -/
def tree : Json → Json
  | .arr elements => .arr (treeElements elements)
  | .obj members => .obj (sortMembers (treeMembers members))
  | j => j

def treeElements : List Json → List Json
  | [] => []
  | j :: rest => j.tree :: treeElements rest

def treeMembers : List (String × Json) → List (String × Json)
  | [] => []
  | (name, j) :: rest => (name, j.tree) :: treeMembers rest

end

mutual

/-- Equality of values, floating point numbers being compared as numbers. -/
def same : Json → Json → Bool
  | .null, .null => true
  | .bool a, .bool b => a == b
  | .int a, .int b => a == b
  | .float a, .float b => a.same b
  | .str a, .str b => a == b
  | .arr a, .arr b => sameElements a b
  | .obj a, .obj b => sameMembers a b
  | _, _ => false

def sameElements : List Json → List Json → Bool
  | [], [] => true
  | a :: as, b :: bs => same a b && sameElements as bs
  | _, _ => false

def sameMembers : List (String × Json) → List (String × Json) → Bool
  | [], [] => true
  | (n, a) :: as, (m, b) :: bs => n == m && same a b && sameMembers as bs
  | _, _ => false

end

mutual

/-- Whether every integer in the value fits into 64 bits, signed or unsigned. -/
def fitsWords : Json → Bool
  | .int n => -UInt64.size ≤ 2 * n && n < UInt64.size
  | .arr elements => fitsWordsElements elements
  | .obj members => fitsWordsMembers members
  | _ => true

def fitsWordsElements : List Json → Bool
  | [] => true
  | j :: rest => j.fitsWords && fitsWordsElements rest

def fitsWordsMembers : List (String × Json) → Bool
  | [] => true
  | (_, j) :: rest => j.fitsWords && fitsWordsMembers rest

end

/-- The sorted tree of a value, unless an integer in it is too large for one. -/
def tree? (j : Json) : Option Json := if j.fitsWords then some j.tree else none

end Json

end LogPipeline
