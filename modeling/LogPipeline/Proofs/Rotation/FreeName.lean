import LogPipeline.Proofs.File.Path
import LogPipeline.Proofs.Time.Stamp
import LogPipeline.Sink.Rotator
import Mathlib.Data.List.Perm.Subperm
import Mathlib.Data.List.Range

/-!
# Free names

The path that a rotating file is moved to is its own with the stamp behind it, or with the least
counter behind that whose name is free (`exists_backupPath`). There always is one, since one more
name is tried than there are entries.
-/

namespace LogPipeline.Rotator

open FileSystem

/-- What stands behind the name of a file moved away as the `n`-th of its stamp. -/
def suffix (stamp : String) (n : Nat) : String := backupName (separator ++ stamp) n

theorem backupName_append (path stamp : String) (n : Nat) :
    backupName (path ++ separator ++ stamp) n = path ++ suffix stamp n := by
  unfold suffix backupName
  split <;> simp [String.append_assoc]

theorem toList_suffix (stamp : String) (n : Nat) : (suffix stamp n).toList =
    '.' :: stamp.toList ++ if n = 0 then [] else '.' :: (padded 3 n).toList := by
  unfold suffix backupName separator
  split_ifs <;> simp

theorem append_suffix_ne (name stamp : String) (n : Nat) : name ++ suffix stamp n ≠ name := by
  intro h
  have := congrArg String.toList h
  simp [toList_suffix] at this

theorem suffix_injective {stamp : String} {m n : Nat} (h : suffix stamp m = suffix stamp n) :
    m = n := by
  have hl := congrArg String.toList h
  rw [toList_suffix, toList_suffix, List.append_cancel_left_eq] at hl
  split_ifs at hl with hm hn hn
  · rw [hm, hn]
  · exact padded_injective (String.toList_injective (List.cons_inj_right _ |>.mp hl))

theorem not_mem_suffix (t : Timestamp) (n : Nat) {c : Char} (hc : c = '/' ∨ c = '\x00') :
    c ∉ (suffix t.stamp n).toList := by
  have hdigit : c.isDigit = false := by rcases hc with rfl | rfl <;> decide
  have hdot : c ≠ '.' := by rcases hc with rfl | rfl <;> decide
  rw [toList_suffix, List.mem_append, List.mem_cons, not_or, not_or]
  refine ⟨⟨hdot, fun hm => ?_⟩, ?_⟩
  · rcases Timestamp.mem_stamp hm with h | rfl | rfl | rfl
    · simp [hdigit] at h
    all_goals simp at hc
  · split_ifs
    · simp
    · rw [List.mem_cons, not_or]
      exact ⟨hdot, fun hm => by simp [isDigit_of_mem_padded hm] at hdigit⟩

/-! ## The search -/

/-- The search ends at a free name, or at the last one that it may try; it passes none that is
free. -/
theorem exists_freeName (fs : FileSystem) (base : String) (n more : Nat) :
    ∃ m, freeName fs base n more = backupName base m ∧ n ≤ m ∧
      (∀ i, n ≤ i → i < m → fs.has (backupName base i) = true) ∧
      (m = n + more ∨ fs.has (backupName base m) = false) := by
  induction more generalizing n with
  | zero => exact ⟨n, rfl, Nat.le_refl _, fun i h h' => by omega, .inl rfl⟩
  | succ more ih =>
    rw [freeName]
    split_ifs with hhas
    · obtain ⟨m, hm, hle, hused, hend⟩ := ih (n + 1)
      refine ⟨m, hm, by omega, fun i hi hlt => ?_, hend.imp (by omega) id⟩
      by_cases h : i = n
      · rw [h, hhas]
      · exact hused i (by omega) hlt
    · exact ⟨n, rfl, Nat.le_refl _, fun i h h' => by omega, .inr (by simpa using hhas)⟩

variable {fs : FileSystem} {path name : String} {dir : Location} {t : Timestamp}

/-- What stands at a path beside the file stands in the file's directory. -/
theorem node?_of_has (h : fs.place path = .ok ⟨dir, .name name, false⟩) {n : Nat}
    (hhas : fs.has (path ++ suffix t.stamp n) = true) :
    ∃ x, fs.node? (dir ++ [name ++ suffix t.stamp n]) = some x := by
  have hplace : fs.place (path ++ suffix t.stamp n) =
      .ok ⟨dir, .name (name ++ suffix t.stamp n), false⟩ := by
    refine place_append h (not_mem_suffix t n (.inl rfl)) (not_mem_suffix t n (.inr rfl)) ?_
    cases hp : fs.place (path ++ suffix t.stamp n) with
    | error e => simp [has, find, hp, bind, Except.bind, Except.toOption] at hhas
    | ok p => exact size_le_of_place hp
  exact ((has_iff hplace).mp hhas).2

/-- There are no more names taken than entries. -/
theorem exists_free (h : fs.place path = .ok ⟨dir, .name name, false⟩) :
    ∃ i ≤ fs.entries.length, fs.has (path ++ suffix t.stamp i) = false := by
  by_contra hall
  push Not at hall
  let taken := (List.range (fs.entries.length + 1)).map fun i => dir ++ [name ++ suffix t.stamp i]
  have hnodup : taken.Nodup := by
    refine List.Nodup.map (fun i j hij => ?_) List.nodup_range
    have hname : name ++ suffix t.stamp i = name ++ suffix t.stamp j := by simpa using hij
    exact suffix_injective ((String.append_right_inj name).mp hname)
  have hsub : taken ⊆ fs.entries.map (·.1) := by
    intro l hl
    obtain ⟨i, hi, rfl⟩ := List.mem_map.mp hl
    have hi : i ≤ fs.entries.length := by
      have := List.mem_range.mp hi
      omega
    obtain ⟨x, hx⟩ := node?_of_has h (by simpa using hall i hi)
    exact List.mem_map.mpr ⟨_, mem_of_node? (by simp) hx, rfl⟩
  have := (List.subperm_of_subset hnodup hsub).length_le
  simp only [taken, List.length_map, List.length_range] at this
  omega

/-- **A free name.** The path that the file is moved to names nothing, and each choice before it
names something. -/
theorem exists_backupPath (h : fs.place path = .ok ⟨dir, .name name, false⟩) :
    ∃ m, backupPath path t fs = path ++ suffix t.stamp m ∧
      fs.has (path ++ suffix t.stamp m) = false ∧
      ∀ i < m, fs.has (path ++ suffix t.stamp i) = true := by
  obtain ⟨m, hm, -, hused, hend⟩ :=
    exists_freeName fs (path ++ separator ++ t.stamp) 0 (fs.entries.length + 1)
  simp only [backupName_append] at hm hused hend
  obtain ⟨i, hi, hfree⟩ := exists_free (t := t) h
  refine ⟨m, hm, hend.elim (fun hlast => ?_) id, fun j hj => hused j (Nat.zero_le _) hj⟩
  rw [hused i (Nat.zero_le _) (by omega)] at hfree
  simp at hfree

end LogPipeline.Rotator
