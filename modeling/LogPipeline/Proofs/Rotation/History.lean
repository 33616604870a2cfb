import LogPipeline.Proofs.Rotation.Step

/-!
# Runs of writes

A `History` is a rotating file with its file system, the results of the writes made so far, and the
moves: where the file went, which one it was and in which second. `Unhindered` says that no call to
the file system fails on the way.
-/

namespace LogPipeline.Rotator

open FileSystem

/-- A write, at what the clock shows in nanoseconds since the start of 1970. -/
structure Call where
  clock : Int
  bytes : Bytes
  deriving DecidableEq, Repr

def Call.now (c : Call) : Timestamp := .ofNanoseconds c.clock

theorem Call.seconds_le {c d : Call} (h : c.clock ≤ d.clock) : c.now.seconds ≤ d.now.seconds := by
  show c.clock.fdiv _ ≤ d.clock.fdiv _
  rw [Int.fdiv_eq_ediv_of_nonneg _ (by decide), Int.fdiv_eq_ediv_of_nonneg _ (by decide)]
  exact Int.ediv_le_ediv (by decide) h

/-- A file that was moved away: its new path, its number, and the second of the move. -/
structure Move where
  path : String
  file : Nat
  second : Int
  deriving DecidableEq, Repr

/-- A rotating file and what the writes to it have done. -/
structure History where
  rotator : Rotator
  files : FileSystem
  results : List (Except IoError Nat)
  moves : List Move

namespace History

/-- The move that a write asks for. -/
def move? (s : History) (c : Call) : Option Move :=
  if s.rotator.isDue c.bytes.length then
    s.rotator.handle.map fun file =>
      ⟨backupPath s.rotator.path c.now s.files, file, c.now.seconds⟩
  else none

/-- One write. -/
def step (s : History) (c : Call) : History :=
  let (result, r, files) := s.rotator.write c.now c.bytes s.files
  ⟨r, files, s.results ++ [result], s.moves ++ (s.move? c).toList⟩

/-- Writes in order. -/
def writes (s : History) (calls : List Call) : History := calls.foldl step s

@[simp] theorem writes_nil (s : History) : s.writes [] = s := rfl

@[simp] theorem writes_cons (s : History) (c : Call) (calls : List Call) :
    s.writes (c :: calls) = (s.step c).writes calls := rfl

theorem writes_append (s : History) (before after : List Call) :
    s.writes (before ++ after) = (s.writes before).writes after :=
  List.foldl_append

/-- No call to the file system fails while a write is made: if the file is due, it can be given its
new name. The other calls cannot fail where this one does not. -/
def Passes (s : History) (c : Call) : Prop :=
  s.rotator.isDue c.bytes.length = true →
    (s.files.rename s.rotator.path (backupPath s.rotator.path c.now s.files)).1 = .ok ()

/-- No call to the file system fails while the writes are made. -/
def Unhindered (s : History) : List Call → Prop
  | [] => True
  | c :: calls => s.Passes c ∧ (s.step c).Unhindered calls

theorem unhindered_append {s : History} {before after : List Call} :
    s.Unhindered (before ++ after) ↔ s.Unhindered before ∧ (s.writes before).Unhindered after := by
  induction before generalizing s with
  | nil => simp [Unhindered]
  | cons c before ih => simp [Unhindered, ih, and_assoc]

variable {s : History} {c : Call} {calls : List Call} {dir : Location} {name : String} {number : Nat}

/-! ## The moves of a run -/

theorem moves_of_not_due (hdue : s.rotator.isDue c.bytes.length = false) :
    (s.step c).moves = s.moves := by
  simp [step, move?, hdue]

theorem moves_writes (s : History) (calls : List Call) :
    ∃ more, (s.writes calls).moves = s.moves ++ more := by
  induction calls generalizing s with
  | nil => exact ⟨[], (List.append_nil _).symm⟩
  | cons c calls ih =>
    obtain ⟨more, hmore⟩ := ih (s.step c)
    exact ⟨(s.move? c).toList ++ more, by rw [writes_cons, hmore, ← List.append_assoc]; rfl⟩

/-- With a clock that does not go back, no move is made in a second after that of a later write. -/
theorem seconds_le_step (hle : ∀ τ ∈ s.moves.map (·.second), ∀ d ∈ c :: calls, τ ≤ d.now.seconds)
    (hclock : (c :: calls).Pairwise fun c d => c.clock ≤ d.clock) :
    ∀ τ ∈ (s.step c).moves.map (·.second), ∀ d ∈ calls, τ ≤ d.now.seconds := by
  intro τ hτ d hd
  have hmoves : (s.step c).moves = s.moves ++ (s.move? c).toList := rfl
  rw [hmoves, List.map_append, List.mem_append] at hτ
  rcases hτ with hτ | hτ
  · exact hle τ hτ d (List.mem_cons_of_mem _ hd)
  · obtain ⟨m, hm, rfl⟩ := List.mem_map.mp hτ
    have hsecond : m.second = c.now.seconds := by
      rw [Option.mem_toList, move?] at hm
      split at hm
      · obtain ⟨file, -, rfl⟩ := Option.map_eq_some_iff.mp hm
        rfl
      · cases hm
    rw [hsecond]
    exact Call.seconds_le (List.rel_of_pairwise_cons hclock hd)

/-! ## One write -/

theorem step_small (h : s.rotator.Attached s.files dir name number)
    (hdue : s.rotator.isDue c.bytes.length = false) :
    s.step c = ⟨{ s.rotator with size := s.rotator.size + c.bytes.length },
      s.files.append number c.bytes, s.results ++ [.ok c.bytes.length], s.moves⟩ := by
  simp [History.step, History.move?, h.write_small hdue, hdue]

/-- A write that is due, with the file that it leaves attached. -/
theorem step_due (h : s.rotator.Attached s.files dir name number)
    (hdue : s.rotator.isDue c.bytes.length = true) (hpass : s.Passes c) :
    ∃ m fs', backupPath s.rotator.path c.now s.files = s.rotator.path ++ suffix c.now.stamp m ∧
      s.files.has (s.rotator.path ++ suffix c.now.stamp m) = false ∧
      (∀ i < m, s.files.has (s.rotator.path ++ suffix c.now.stamp i) = true) ∧
      s.files.place (s.rotator.path ++ suffix c.now.stamp m) =
        .ok ⟨dir, .name (name ++ suffix c.now.stamp m), false⟩ ∧
      Moved s.files fs' dir name (name ++ suffix c.now.stamp m) number ∧
      Attached { s.rotator with
        handle := some s.files.next, size := 0, rotations := s.rotator.rotations + 1 }
        fs' dir name s.files.next ∧
      s.step c = ⟨{ s.rotator with
          handle := some s.files.next, size := 0 + c.bytes.length,
          rotations := s.rotator.rotations + 1 },
        (if s.rotator.maxBackups = 0 then fs'
          else prune s.rotator.path s.rotator.maxBackups fs').append s.files.next c.bytes,
        s.results ++ [.ok c.bytes.length],
        s.moves ++ [⟨s.rotator.path ++ suffix c.now.stamp m, number, c.now.seconds⟩]⟩ := by
  obtain ⟨m, hpath, hunused, hused, hplace, hmoved, hwrite⟩ := h.write_due hdue (hpass hdue)
  refine ⟨m, _, hpath, hunused, hused, hplace, hmoved,
    h.of_moved hmoved rfl h.running rfl rfl, ?_⟩
  simp [History.step, History.move?, hwrite, hdue, h.handle, hpath]

end History

/-- A rotating file right after it was opened. -/
def opened (r : Rotator) (fs : FileSystem) : History := ⟨r, fs, [], []⟩

/-! ## Opening -/

variable {path : String} {maxSize maxBackups : Nat} {fs₀ fs : FileSystem} {r : Rotator}

/-- The directory of a file is made if it is missing. -/
def makeHome (path : String) (fs : FileSystem) : Except IoError Unit × FileSystem :=
  let dir := (Path.parent? path).getD ""
  if dir.isEmpty then (.ok (), fs) else fs.makeDirs dir

theorem grown_makeHome (hs : fs₀.Sound) (path : String) : Grown fs₀ (makeHome path fs₀).2 := by
  unfold makeHome
  dsimp only
  split_ifs
  · exact .refl hs
  · exact grown_makeDirs hs _

theorem keeps_makeHome (path : String) (fs : FileSystem) : fs.Keeps (makeHome path fs).2 := by
  unfold makeHome
  dsimp only
  split_ifs
  · exact .refl fs
  · exact fs.keeps_makeDirs _

/-- A rotating file is opened once its directory is there. -/
theorem create_iff : create path maxSize maxBackups fs₀ = (.ok r, fs) ↔
    ∃ fs₁ number, makeHome path fs₀ = (.ok (), fs₁) ∧ fs₁.openAppend path = (.ok number, fs) ∧
      r = ⟨path, maxSize, maxBackups, some number, (fs.content number).length, false, 0, 0⟩ := by
  unfold create makeHome
  dsimp only
  generalize (if ((Path.parent? path).getD "").isEmpty = true
    then ((.ok (), fs₀) : Except IoError Unit × FileSystem)
    else fs₀.makeDirs ((Path.parent? path).getD "")) = made
  obtain ⟨made, fs₁⟩ := made
  cases made with
  | error e => simp
  | ok _ =>
    cases hopen : fs₁.openAppend path with
    | mk result fs₂ =>
    cases result with
    | error e => simp [hopen]
    | ok number =>
      simp only [hopen, Prod.mk.injEq, Except.ok.injEq, true_and, exists_and_left, and_assoc,
        exists_eq_left']
      constructor
      · rintro ⟨rfl, rfl⟩
        exact ⟨rfl, rfl⟩
      · rintro ⟨rfl, rfl⟩
        exact ⟨rfl, rfl⟩

/-- Where a rotating file cannot be opened, there may be new directories and nothing else. -/
theorem keeps_create_error {e : SetupError}
    (h : create path maxSize maxBackups fs₀ = (.error e, fs)) : fs₀.Keeps fs := by
  have hkeeps := keeps_makeHome path fs₀
  unfold makeHome at hkeeps
  unfold create at h
  dsimp only at h hkeeps
  generalize (if ((Path.parent? path).getD "").isEmpty = true
    then ((.ok (), fs₀) : Except IoError Unit × FileSystem)
    else fs₀.makeDirs ((Path.parent? path).getD "")) = made at h hkeeps
  obtain ⟨made, fs₁⟩ := made
  cases made with
  | error _ =>
    obtain rfl : fs₁ = fs := (Prod.mk.inj h).2
    exact hkeeps
  | ok _ =>
    cases hopen : fs₁.openAppend path with
    | mk result fs₂ =>
    simp only [hopen] at h
    cases result with
    | error _ =>
      obtain rfl : fs₂ = fs := (Prod.mk.inj h).2
      exact openAppend_error hopen ▸ hkeeps
    | ok number => cases h

/-- What opening gives: the file is attached, it holds what it held, and nothing else has
changed. -/
theorem create_ok (hs : fs₀.Sound) (h : create path maxSize maxBackups fs₀ = (.ok r, fs)) :
    ∃ dir name number, r.Attached fs dir name number ∧
      r = ⟨path, maxSize, maxBackups, some number, (fs.content number).length, false, 0, 0⟩ ∧
      Preserves fs₀ fs (dir ++ [name]) ∧
      (fs₀.node? (dir ++ [name]) = some (.file number) ∧
          fs.content number = fs₀.content number ∨
        fs₀.node? (dir ++ [name]) = none ∧ fs.content number = []) := by
  have hgrown := grown_makeHome hs path
  obtain ⟨fs₁, number, hhome, ho, rfl⟩ := create_iff.mp h
  rw [hhome] at hgrown
  obtain ⟨dir, name, hplace, hshort, hcase⟩ := openAppend_ok ho
  refine ⟨dir, name, number, ?_, rfl, ?_⟩
  · rcases hcase with ⟨hnode, rfl⟩ | ⟨hnone, rfl, rfl⟩
    · exact ⟨hgrown.sound, hplace, hshort, rfl, rfl, hnode, rfl⟩
    · have hdir : fs₁.node? (dir ++ [name]).dropLast = some .dir := by
        rw [List.dropLast_concat]
        exact place_dir hgrown.sound hplace
      refine ⟨hgrown.sound.newFile (by simp) hnone hdir, place_mono ?_ hplace, hshort, rfl, rfl,
        ?_, rfl⟩
      · intro l hl
        rw [node?_newFile, hl]
        rfl
      · rw [node?_newFile, hnone, if_pos rfl]
        rfl
  · have hkept : Preserves fs₀ fs₁ (dir ++ [name]) := fun l x _ hx =>
      ⟨hgrown.kept l x hx, fun n _ => hgrown.content n⟩
    rcases hcase with ⟨hnode, rfl⟩ | ⟨hnone, rfl, rfl⟩
    · exact ⟨hkept, .inl ⟨hgrown.files _ _ hnode, hgrown.content _⟩⟩
    · refine ⟨hkept.trans (.newFile hgrown.sound _), .inr ⟨?_, by simp⟩⟩
      by_contra hx
      obtain ⟨x, hx⟩ := Option.ne_none_iff_exists'.mp hx
      rw [hgrown.kept _ _ hx] at hnone
      simp at hnone

end LogPipeline.Rotator
