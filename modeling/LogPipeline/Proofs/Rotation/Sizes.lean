import LogPipeline.Proofs.Rotation.Conservation
import LogPipeline.Proofs.Rotation.Opening
import LogPipeline.Proofs.Rotation.Recovery

/-!
# How large the files become

The size that a rotating file counts is that of the file at its path, which is the file that it has
open (`sizes_bounded`). What is put into a file that holds something already fits below the limit,
so a file that is larger holds one piece alone: a payload, or what was there when the file was
opened. `Accounted` is what each write keeps of this, for the file itself and for those moved away.
-/

namespace LogPipeline.Rotator

open FileSystem

variable {fs fs' : FileSystem} {path name : String} {dir : Location} {number maxSize : Nat}
  {s : History} {c : Call} {calls : List Call} {initial : Bytes}

/-- What a file holds is within the limit, or is one of some pieces alone. -/
def Bounded (maxSize : Nat) (pieces : List Bytes) (bytes : Bytes) : Prop :=
  bytes.length ≤ maxSize ∨ bytes ∈ pieces

/-- What has been put into a rotating file, after what it held at first. -/
def pieces (initial : Bytes) (calls : List Call) : List Bytes := initial :: calls.map (·.bytes)

/-- The sizes in a run of writes. -/
structure Accounted (path : String) (maxSize : Nat) (dir : Location) (name : String) (number : Nat)
    (initial : Bytes) (calls : List Call) (s : History) : Prop where
  path : s.rotator.path = path
  limit : s.rotator.maxSize = maxSize
  attached : s.rotator.Attached s.files dir name number
  named : s.files.Named
  count : s.rotator.rotations = s.moves.length
  unlimited : maxSize = 0 → s.moves = []
  /-- The file itself is too large only if it holds the last piece alone. -/
  last : 0 < maxSize →
    Bounded maxSize (pieces initial calls).getLast?.toList (s.files.content number)
  earlier : ∀ m ∈ s.moves, m.file < s.files.next ∧ number ≠ m.file
  moved : ∀ m ∈ s.moves, Bounded maxSize (pieces initial calls) (s.files.content m.file)

/-! ## Pieces -/

theorem pieces_concat (initial : Bytes) (calls : List Call) (c : Call) :
    pieces initial (calls ++ [c]) = pieces initial calls ++ [c.bytes] := by
  rw [pieces, List.map_append, ← List.cons_append]
  rfl

theorem Bounded.mono {ps qs : List Bytes} {bytes : Bytes} (h : Bounded maxSize ps bytes)
    (hsub : ps ⊆ qs) : Bounded maxSize qs bytes :=
  h.imp_right fun hmem => hsub hmem

/-- Changes that leave the octets of files alone leave those of every file that there was. -/
theorem content_of_rearranged (h : Rearranged fs fs') {n : Nat} (hn : n < fs.next) :
    fs'.content n = fs.content n := by
  have hheld := h.held n
  rwa [FileSystem.held, FileSystem.held, if_pos hn, if_pos (Nat.lt_of_lt_of_le hn h.next)] at hheld

/-! ## One write -/

/-- A write that is not due fits below the limit. -/
theorem Accounted.step_small (h : Accounted path maxSize dir name number initial calls s)
    (hdue : s.rotator.isDue c.bytes.length = false) :
    Accounted path maxSize dir name number initial (calls ++ [c]) (s.step c) := by
  rw [History.step_small h.attached hdue]
  refine ⟨h.path, h.limit, h.attached.append, h.named, h.count, h.unlimited, fun hpos => .inl ?_,
    h.earlier, fun m hm => ?_⟩
  · have hfits : s.rotator.size + c.bytes.length ≤ maxSize := by
      simpa [isDue, h.limit, hpos] using hdue
    rw [content_append, if_pos rfl, List.length_append, ← h.attached.size]
    exact hfits
  · rw [content_append, if_neg (h.earlier m hm).2, pieces_concat]
    exact (h.moved m hm).mono (List.subset_append_left _ _)

/-- A write that is due goes into a new file, and leaves what every other file holds as it was, also
of those that are removed. -/
theorem History.step_due_content (h : s.rotator.Attached s.files dir name number)
    (hnamed : s.files.Named) (hdue : s.rotator.isDue c.bytes.length = true) (hpass : s.Passes c) :
    ∃ target fs', Attached { s.rotator with
        handle := some s.files.next, size := 0 + c.bytes.length,
        rotations := s.rotator.rotations + 1 } fs' dir name s.files.next ∧ fs'.Named ∧
      fs'.content s.files.next = c.bytes ∧
      (∀ n < s.files.next, fs'.content n = s.files.content n) ∧
      s.step c = ⟨{ s.rotator with
          handle := some s.files.next, size := 0 + c.bytes.length,
          rotations := s.rotator.rotations + 1 },
        fs', s.results ++ [.ok c.bytes.length],
        s.moves ++ [⟨target, number, c.now.seconds⟩]⟩ := by
  obtain ⟨m, moved, hpath, hunused, -, -, hmoved, hopened, hstep⟩ := step_due h hdue hpass
  have hfits := (h.rename_iff hpath hunused).mp (hpass hdue)
  obtain ⟨hattached, hconfined⟩ := h.moves_prune hmoved hnamed hfits
  have hpruned : Rearranged moved (if s.rotator.maxBackups = 0 then moved
      else prune s.rotator.path s.rotator.maxBackups moved) := by
    split_ifs
    · exact .refl hmoved.sound
    · exact rearranged_prune hmoved.sound _ _
  have hnext : s.files.next < moved.next := hopened.sound.numbered _ _ hopened.node
  refine ⟨_, _, hattached.append, hconfined.named hnamed, ?_, fun n hn => ?_, hstep⟩
  · rw [content_append, if_pos rfl, content_of_rearranged hpruned hnext, hmoved.content, if_pos rfl,
      List.nil_append]
  · rw [content_append, if_neg (by omega), content_of_rearranged hpruned (by omega),
      hmoved.content, if_neg (by omega)]

/-- A write that is due moves the file away as it is, and is all that the new file holds. -/
theorem Accounted.step_due (h : Accounted path maxSize dir name number initial calls s)
    (hdue : s.rotator.isDue c.bytes.length = true) (hpass : s.Passes c) :
    Accounted path maxSize dir name s.files.next initial (calls ++ [c]) (s.step c) := by
  obtain ⟨hpos, -⟩ : 0 < maxSize ∧ maxSize < s.rotator.size + c.bytes.length := by
    simpa [isDue, h.limit] using hdue
  obtain ⟨target, fs', hattached, hnamed, hfresh, hkept, hstep⟩ :=
    History.step_due_content h.attached h.named hdue hpass
  have hold := h.attached.sound.numbered _ _ h.attached.node
  have hnew := hattached.sound.numbered _ _ hattached.node
  rw [hstep]
  refine ⟨h.path, h.limit, hattached, hnamed, ?_, fun hzero => absurd hzero hpos.ne',
    fun _ => .inr ?_, ?_, ?_⟩
  · simp [h.count]
  · rw [pieces_concat, List.getLast?_concat, hfresh]
    exact List.mem_singleton_self _
  · refine List.forall_mem_append.mpr ⟨fun m hm => ?_, List.forall_mem_singleton.mpr ?_⟩
    · exact ⟨(h.earlier m hm).1.trans hnew, (h.earlier m hm).1.ne'⟩
    · exact ⟨hold.trans hnew, hold.ne'⟩
  · rw [pieces_concat]
    refine List.forall_mem_append.mpr ⟨fun m hm => ?_, List.forall_mem_singleton.mpr ?_⟩
    · rw [hkept _ (h.earlier m hm).1]
      exact (h.moved m hm).mono (List.subset_append_left _ _)
    · -- the file is moved away with what it held last
      rw [hkept _ hold]
      refine (h.last hpos).mono fun piece hpiece => List.mem_append_left _ ?_
      exact List.mem_of_getLast? (Option.mem_toList.mp hpiece)

/-! ## A run -/

theorem Accounted.find (h : Accounted path maxSize dir name number initial calls s) :
    s.files.find path = .ok (dir ++ [name], .file number) := by
  have hplace := h.attached.place
  rw [h.path] at hplace
  exact find_name hplace h.attached.short h.attached.node

theorem Accounted.step (h : Accounted path maxSize dir name number initial calls s)
    (hpass : s.Passes c) :
    ∃ number', Accounted path maxSize dir name number' initial (calls ++ [c]) (s.step c) := by
  cases hdue : s.rotator.isDue c.bytes.length with
  | false => exact ⟨number, h.step_small hdue⟩
  | true => exact ⟨s.files.next, h.step_due hdue hpass⟩

/-- What a run keeps, by induction over its writes. -/
theorem Accounted.writes {before : List Call}
    (h : Accounted path maxSize dir name number initial before s) (hcalls : s.Unhindered calls) :
    ∃ number', Accounted path maxSize dir name number' initial (before ++ calls)
      (s.writes calls) := by
  induction calls generalizing s number before with
  | nil => exact ⟨number, by simpa using h⟩
  | cons c calls ih =>
    obtain ⟨number', hnext⟩ := h.step hcalls.1
    obtain ⟨number'', hrest⟩ := ih hnext hcalls.2
    exact ⟨number'', by simpa using hrest⟩

variable {maxBackups : Nat} {fs₀ : FileSystem} {r : Rotator}

theorem accounted_opened (hs : fs₀.Sound) (hnamed : fs₀.Named)
    (h : create path maxSize maxBackups fs₀ = (.ok r, fs)) :
    ∃ dir name number, Accounted path maxSize dir name number (fs.content number) [] (opened r fs) ∧
      (fs₀.node? (dir ++ [name]) = some (.file number) ∧
          fs.content number = fs₀.content number ∨
        fs₀.node? (dir ++ [name]) = none ∧ fs.content number = []) := by
  obtain ⟨dir, name, number, hattached, rfl, -, hinitial⟩ := create_ok hs h
  refine ⟨dir, name, number, ⟨rfl, rfl, hattached, named_create hnamed h, rfl, fun _ => rfl,
    fun _ => .inr (List.mem_singleton_self _), ?_, ?_⟩, hinitial⟩
  · exact fun m hm => absurd hm List.not_mem_nil
  · exact fun m hm => absurd hm List.not_mem_nil

/-! ## Sizes as words -/

/-- The size after a write is a sum with the payload, of the size before or, in a new file, of
nothing. -/
theorem Attached.size_write (h : r.Attached fs dir name number) (t : Timestamp) (bytes : Bytes) :
    (r.write t bytes fs).2.1.size = r.size + bytes.length ∨
      (r.write t bytes fs).2.1.size = 0 + bytes.length := by
  obtain ⟨m, -, -, ⟨-, hwrite⟩ | ⟨-, fs', -, hwrite⟩⟩ := h.write_cases t bytes
  · exact .inl (by rw [hwrite])
  · exact .inr (by rw [hwrite])

/-- The sums that a write takes are less than 64 bits hold. -/
theorem Accounted.words (h : Accounted path maxSize dir name number initial calls s) (c : Call)
    (hsize : (s.files.content number).length < 2 ^ 63) (hlength : c.bytes.length < 2 ^ 63) :
    s.rotator.size + c.bytes.length < 2 ^ 64 ∧ (s.step c).rotator.size < 2 ^ 64 := by
  have hsum : s.rotator.size + c.bytes.length < 2 ^ 64 := by
    rw [h.attached.size]
    omega
  refine ⟨hsum, ?_⟩
  change (s.rotator.write c.now c.bytes s.files).2.1.size < 2 ^ 64
  rcases h.attached.size_write c.now c.bytes with hsize' | hsize' <;> omega

theorem getLast?_pieces (hc : c ∈ calls.getLast?) :
    (pieces initial calls).getLast? = some c.bytes := by
  rw [pieces, List.getLast?_cons, List.getLast?_map, Option.mem_def.mp hc]
  rfl

/-- **Sizes.** A file is opened with any limit and any number of files to keep, and written to with
a clock that shows what it likes, with no call to the file system failing. After it is opened and
after each write, the file at its path is the one that is open, and its length is the size that is
counted. With a limit, the file is within it after each write or is exactly the payload of that
write, and a file that was moved away is within it, or is exactly one payload or what was there at
first. Without a limit no file is moved. Where the file and a payload are shorter than half of what
64 bits count, their sum and the next size are within 64 bits. -/
theorem sizes_bounded (hs : fs₀.Sound) (hnamed : fs₀.Named)
    (hopen : create path maxSize maxBackups fs₀ = (.ok r, fs))
    (hcalls : (opened r fs).Unhindered calls) :
    ∃ (file : Location) (number : Nat) (initial : Bytes),
      fs.find path = .ok (file, .file number) ∧ fs.content number = initial ∧
      (fs₀.node? file = some (.file number) ∧ initial = fs₀.content number ∨
        fs₀.node? file = none ∧ initial = []) ∧
      ∀ before after, calls = before ++ after → ∃ (number : Nat) (bytes : Bytes),
        let s := (opened r fs).writes before
        s.files.find path = .ok (file, .file number) ∧ s.rotator.handle = some number ∧
        s.files.content number = bytes ∧ s.rotator.size = bytes.length ∧
        (0 < maxSize →
          (∀ c ∈ before.getLast?, bytes.length ≤ maxSize ∨ bytes = c.bytes) ∧
          ∀ m ∈ s.moves, (s.files.content m.file).length ≤ maxSize ∨
            s.files.content m.file ∈ before.map (·.bytes) ∨ s.files.content m.file = initial) ∧
        (maxSize = 0 → s.rotator.rotations = 0 ∧ s.moves = []) ∧
        ∀ c : Call, bytes.length < 2 ^ 63 → c.bytes.length < 2 ^ 63 →
          s.rotator.size + c.bytes.length < 2 ^ 64 ∧ (s.step c).rotator.size < 2 ^ 64 := by
  obtain ⟨dir, name, number, hopened, hinitial⟩ := accounted_opened hs hnamed hopen
  refine ⟨dir ++ [name], number, _, hopened.find, rfl, hinitial, ?_⟩
  rintro before after rfl
  obtain ⟨number', h⟩ := hopened.writes (History.unhindered_append.mp hcalls).1
  rw [List.nil_append] at h
  refine ⟨number', _, h.find, h.attached.handle, rfl, h.attached.size, fun hpos => ⟨?_, ?_⟩, ?_,
    h.words⟩
  · intro c hc
    have hlast := h.last hpos
    rw [getLast?_pieces hc] at hlast
    exact hlast.imp_right List.mem_singleton.mp
  · exact fun m hm => (h.moved m hm).imp_right fun hmem => (List.mem_cons.mp hmem).symm
  · intro hzero
    have hmoves := h.unlimited hzero
    exact ⟨by rw [h.count, hmoves]; rfl, hmoves⟩

theorem named_occupied : occupied.Named := by
  have hfile : ((empty.newFile ["app.log"]).append 0 [1]).Named := Named.empty.openAppend "app.log"
  exact hfile.openAppend "app.log.19700101T000000"

/-- A payload that fills the file to its limit, one that is too large and an empty one, with the clock
going back. -/
theorem sizes_bounded_occupied :
    let calls : List Call := [⟨0, [2]⟩, ⟨-1, [3, 4, 5]⟩, ⟨-2, []⟩]
    let s := (opened ⟨"app.log", 2, 0, some 0, 1, false, 0, 0⟩ occupied).writes calls
    occupied.Sound ∧ occupied.Named ∧
      create "app.log" 2 0 occupied =
        (.ok ⟨"app.log", 2, 0, some 0, 1, false, 0, 0⟩, occupied) ∧
      (opened ⟨"app.log", 2, 0, some 0, 1, false, 0, 0⟩ occupied).Unhindered calls ∧
      s.moves.length = 2 ∧ ∃ number bytes,
        s.rotator.handle = some number ∧ s.files.read "app.log" = .ok bytes ∧
        s.rotator.size = bytes.length ∧ (bytes.length ≤ 2 ∨ bytes = []) ∧
        ∀ m ∈ s.moves, (s.files.content m.file).length ≤ 2 ∨
          s.files.content m.file ∈ [[2], [3, 4, 5], []] ∨ s.files.content m.file = [1] := by
  intro calls s
  have hopen : create "app.log" 2 0 occupied =
      (.ok ⟨"app.log", 2, 0, some 0, 1, false, 0, 0⟩, occupied) := rfl
  have hcalls : (opened ⟨"app.log", 2, 0, some 0, 1, false, 0, 0⟩ occupied).Unhindered calls :=
    ⟨fun _ => rfl, fun _ => rfl, fun _ => rfl, trivial⟩
  obtain ⟨file, number, initial, hfind, hinitial, -, hall⟩ :=
    sizes_bounded sound_occupied named_occupied hopen hcalls
  have hfirst : occupied.find "app.log" = .ok (["app.log"], .file 0) := rfl
  rw [hfirst] at hfind
  cases hfind
  obtain rfl : [1] = initial := hinitial
  obtain ⟨number, bytes, hfind, hhandle, rfl, hsize, hlimit, -, -⟩ :=
    hall calls [] (List.append_nil _).symm
  obtain ⟨hactive, hmoved⟩ := hlimit (by decide)
  have hread : s.files.read "app.log" = .ok (s.files.content number) := by
    rw [FileSystem.read, hfind]
  exact ⟨sound_occupied, named_occupied, hopen, hcalls, rfl, number, _, hhandle, hread, hsize,
    hactive ⟨-2, []⟩ rfl, hmoved⟩

end LogPipeline.Rotator
