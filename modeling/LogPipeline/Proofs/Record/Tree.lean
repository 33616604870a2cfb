import LogPipeline.Proofs.Record.JsonDecoding

/-!
# The tree of a value

There are two ways from a value to a JSON tree, in which objects are sorted by name and have the
last of several members of one name. One goes over the JSON text of the value, the other builds the
tree member by member (`Value.tree?`). Both come to the same tree (`value_routes_agree`). Only the
second one can fail, at a duration that is too long for an integer of 64 bits.
-/

namespace LogPipeline

mutual

/-- The tree of a value, built from the trees of its attributes as they come. -/
def Value.tree? : Value → Option Json
  | .str s => some (.str s)
  | .int n => some (.int n.toInt)
  | .uint n => some (.int n.toNat)
  | .float x => some (.ofBinary64 x)
  | .bool b => some (.bool b)
  | .duration d => if d.nanoseconds < UInt64.size then some (.int d.nanoseconds) else none
  | .error text => some (.str text)
  | .any payload => some payload
  | .group attrs => (addTrees? attrs []).map .obj

/-- Adds the trees of attributes to the members of an object one by one. -/
def addTrees? : List Attr → List (String × Json) → Option (List (String × Json))
  | [], members => some members
  | ⟨key, value⟩ :: rest, members => do
    addTrees? rest (Json.insertMember key (← value.tree?) members)

end

mutual

/-- Some duration in the value takes more than 64 bits in nanoseconds. -/
def Value.HoldsLong : Value → Prop
  | .duration d => UInt64.size ≤ d.nanoseconds
  | .group attrs => HoldLong attrs
  | _ => False

def HoldLong : List Attr → Prop
  | [] => False
  | ⟨_, value⟩ :: rest => value.HoldsLong ∨ HoldLong rest

end

mutual

/-- Every payload in the value is a tree already, of integers of at most 64 bits. -/
def Value.HoldsTrees : Value → Prop
  | .any payload => payload.tree? = some payload
  | .group attrs => HoldTrees attrs
  | _ => True

def HoldTrees : List Attr → Prop
  | [] => True
  | ⟨_, value⟩ :: rest => value.HoldsTrees ∧ HoldTrees rest

end

variable {v : Value}

mutual

/-- Building a tree fails at a duration that is too long, and at nothing else. -/
theorem Value.tree?_eq_none_iff : ∀ v : Value, v.tree? = none ↔ v.HoldsLong
  | .str _ | .int _ | .uint _ | .float _ | .bool _ | .error _ | .any _ => by
    simp [Value.tree?, Value.HoldsLong]
  | .duration d => by
    simp [Value.tree?, Value.HoldsLong]
  | .group attrs => by
    rw [Value.tree?, Option.map_eq_none_iff, addTrees?_eq_none_iff attrs, Value.HoldsLong]

theorem addTrees?_eq_none_iff : ∀ (attrs : List Attr) (members : List (String × Json)),
    addTrees? attrs members = none ↔ HoldLong attrs
  | [], _ => by simp [addTrees?, HoldLong]
  | ⟨key, value⟩ :: rest, members => by
    have hvalue := Value.tree?_eq_none_iff value
    rw [addTrees?, HoldLong, ← hvalue]
    cases value.tree? with
    | none => simp
    | some j => simp [addTrees?_eq_none_iff rest]

end

theorem fitsWords_int (n : Int64) : Json.fitsWords (.int n.toInt) = true := by
  have hlow := n.le_toInt
  have hhigh := n.toInt_lt
  simp only [Json.fitsWords, Bool.and_eq_true, decide_eq_true_eq, UInt64.size]
  omega

theorem fitsWords_nat (n : Nat) : Json.fitsWords (.int n) = decide (n < UInt64.size) := by
  rw [Bool.eq_iff_iff]
  simp only [Json.fitsWords, Bool.and_eq_true, decide_eq_true_eq, UInt64.size]
  omega

theorem fitsWords_ofBinary64 (x : Binary64) : (Json.ofBinary64 x).fitsWords = true := by
  unfold Json.ofBinary64
  split <;> rfl

theorem tree_ofBinary64 (x : Binary64) : (Json.ofBinary64 x).tree = .ofBinary64 x := by
  unfold Json.ofBinary64
  split <;> rfl

mutual

/-- The tree that is built is the tree of the JSON form, if its integers fit into 64 bits. -/
theorem Value.tree?_eq : ∀ v : Value, v.HoldsTrees → v.tree? = v.json.tree?
  | .str _ | .bool _ | .error _ => fun _ => rfl
  | .int n => fun _ => by
    rw [Value.json, Json.tree?, if_pos (fitsWords_int n)]
    rfl
  | .uint n => fun _ => by
    rw [Value.json, Json.tree?, fitsWords_nat, if_pos (decide_eq_true n.toNat_lt)]
    rfl
  | .float x => fun _ => by
    rw [Value.json, Json.tree?, if_pos (fitsWords_ofBinary64 x), tree_ofBinary64, Value.tree?]
  | .duration d => fun _ => by
    rw [Value.json, Json.tree?, fitsWords_nat, Value.tree?]
    simp only [decide_eq_true_eq]
    rfl
  | .any payload => fun h => h.symm
  | .group attrs => fun h => by
    rw [Value.tree?, addTrees?_eq attrs h, Value.json, Json.tree?, Json.fitsWords, Json.tree,
      Json.sortMembers]
    split <;> rfl

theorem addTrees?_eq : ∀ attrs : List Attr, HoldTrees attrs → ∀ members : List (String × Json),
    addTrees? attrs members =
      if Json.fitsWordsMembers (Value.attrMembers attrs) then
        some ((Json.treeMembers (Value.attrMembers attrs)).foldl
          (fun sorted m => Json.insertMember m.1 m.2 sorted) members)
      else none
  | [], _, _ => rfl
  | ⟨key, value⟩ :: rest, h, members => by
    rw [addTrees?, Value.tree?_eq value h.1, Value.attrMembers, Json.fitsWordsMembers,
      Json.treeMembers, Json.tree?, List.foldl_cons]
    cases value.json.fitsWords with
    | false => rfl
    | true =>
      rw [if_pos rfl, Bool.true_and, ← addTrees?_eq rest h.2]
      rfl

end

/-- **Both ways to a tree agree.** Of every value whose payloads are trees: building its tree fails
if and only if a duration in it takes more than 64 bits, whatever else it holds. If it holds neither
such a duration nor a floating point number, its text is read as a JSON value with just that tree,
provided that it is nested no deeper than a reader allows; names may be repeated at any depth and
be any texts. -/
theorem value_routes_agree (htrees : v.HoldsTrees) :
    v.json.tree? = v.tree? ∧ (v.json.tree? = none ↔ v.HoldsLong) ∧
    (v.NoFloat → ¬v.HoldsLong → v.json.depth < Json.depthLimit →
      ∃ j, v.json.tree? = some j ∧ (Json.parse? v.json.compact).map Json.tree = some j) := by
  have hsame := v.tree?_eq htrees
  refine ⟨hsame.symm, hsame ▸ v.tree?_eq_none_iff, fun hfloat hshort hdepth => ?_⟩
  have hfits : v.json.fitsWords = true := by
    by_contra hnot
    rw [← v.tree?_eq_none_iff, hsame, Json.tree?, if_neg hnot] at hshort
    exact hshort rfl
  refine ⟨v.json.tree, if_pos hfits, ?_⟩
  rw [Json.parse?_compact (Value.NoFloat.json v hfloat) hdepth hfits, Option.map_some]

/-- Repeated names at two depths, a name and a text that have to be escaped, a payload, and integers
and a duration at the edge of 64 bits. -/
theorem value_routes_agree_repeated :
    let v : Value := .group [⟨"d", .duration ⟨18446744073709551615⟩⟩,
      ⟨"a\"", .group [⟨"k", .uint 18446744073709551615⟩, ⟨"j", .int (-9223372036854775808)⟩,
        ⟨"k", .any (.arr [.obj [("x", .null)]])⟩]⟩, ⟨"d", .str "\x01é"⟩]
    let j : Json := .obj [("a\"", .obj [("j", .int (-9223372036854775808)),
      ("k", .arr [.obj [("x", .null)]])]), ("d", .str "\x01é")]
    v.HoldsTrees ∧ v.NoFloat ∧ ¬v.HoldsLong ∧ v.json.depth < Json.depthLimit ∧
      v.json.tree? = some j ∧ (Json.parse? v.json.compact).map Json.tree = some j := by
  intro v j
  have htrees : v.HoldsTrees := ⟨trivial, ⟨trivial, trivial, rfl, trivial⟩, trivial, trivial⟩
  have hfloat : v.NoFloat :=
    ⟨trivial, ⟨trivial, trivial, ⟨⟨trivial, trivial⟩, trivial⟩, trivial⟩, trivial, trivial⟩
  have hshort : ¬v.HoldsLong := by simp [v, Value.HoldsLong, HoldLong]
  have hdepth : v.json.depth < Json.depthLimit := by decide
  have htree : v.json.tree? = some j := by
    have hfits : v.json.fitsWords = true := by decide
    have hsorted : v.json.tree = j := by
      simp only [v, j, Value.json, Value.attrMembers, Json.tree, Json.treeMembers,
        Json.treeElements, Json.sortMembers, Json.insertMember, List.foldl_cons, List.foldl_nil]
      rfl
    rw [Json.tree?, if_pos hfits, hsorted]
  obtain ⟨k, hk, hread⟩ := (value_routes_agree htrees).2.2 hfloat hshort hdepth
  exact ⟨htrees, hfloat, hshort, hdepth, htree, hread.trans (hk.symm.trans htree)⟩

end LogPipeline
