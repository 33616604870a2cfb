import LogPipeline.Proofs.File.Sound

/-!
# The names in a directory

The listing of a directory holds each name that something in it stands under, and each once.
-/

namespace LogPipeline.FileSystem

variable {fs : FileSystem} {dir : Location}

/-- What a location gives for the listing of a directory. -/
def nameIn (dir l : Location) : Option String :=
  match l.getLast? with
  | some name => if l == dir ++ [name] then some name else none
  | none => none

theorem namesIn_eq (fs : FileSystem) (dir : Location) :
    fs.namesIn dir = (fs.entries.map (·.1)).filterMap (nameIn dir) := by
  rw [List.filterMap_map]
  rfl

theorem nameIn_eq_some_iff {l : Location} {n : String} :
    nameIn dir l = some n ↔ l = dir ++ [n] := by
  unfold nameIn
  constructor
  · intro h
    split at h
    · rename_i name hlast
      split at h
      · rename_i heq
        obtain rfl : name = n := by simpa using h
        exact beq_iff_eq.mp heq
      · simp at h
    · simp at h
  · rintro rfl
    simp

theorem Sound.mem_namesIn (hs : fs.Sound) {n : String} :
    n ∈ fs.namesIn dir ↔ ∃ x, fs.node? (dir ++ [n]) = some x := by
  simp only [namesIn_eq, List.mem_filterMap, nameIn_eq_some_iff,
    hs.node?_eq_some_iff (show dir ++ [n] ≠ [] by simp), List.mem_map, Prod.exists,
    exists_and_right, exists_eq_right]

theorem Sound.nodup_namesIn (hs : fs.Sound) (dir : Location) : (fs.namesIn dir).Nodup := by
  rw [namesIn_eq]
  refine List.Nodup.filterMap (fun l m n hl hm => ?_) hs.names
  rw [nameIn_eq_some_iff.mp hl, nameIn_eq_some_iff.mp hm]

end LogPipeline.FileSystem
