import LogPipeline.Proofs.Rotation.History

/-!
# Nothing is lost

A rotating file that keeps all that is moved away loses and duplicates nothing
(`rotation_conserves`). The files moved away, in the order of their moves, and the file itself hold
what the file held when it was opened and then each write, in order and whole in one of them; each
move goes to a name that is free, and no other file is touched.

`Conserved` is what each write keeps. It speaks of the files by their numbers, which a move leaves
as they are. A write that is not due makes the last of the `Grouped` texts longer, and one that is
due adds a text.
-/

namespace LogPipeline.Rotator

open FileSystem

variable {fs fs' : FileSystem} {path : String} {dir : Location} {name : String} {number : Nat}
  {s : History} {c : Call} {calls : List Call} {initial : Bytes} {m : Move}

/-! ## Files moved away -/

/-- A file moved away is at its path, beside the rotating file. -/
def Stands (fs : FileSystem) (dir : Location) (name : String) (m : Move) : Prop :=
  ∃ new, new ≠ name ∧ new.utf8ByteSize ≤ nameLimit ∧
    fs.place m.path = .ok ⟨dir, .name new, false⟩ ∧ fs.node? (dir ++ [new]) = some (.file m.file)

theorem read_of_place {new : String} (hplace : fs.place path = .ok ⟨dir, .name new, false⟩)
    (hshort : new.utf8ByteSize ≤ nameLimit) (hnode : fs.node? (dir ++ [new]) = some (.file number)) :
    fs.read path = .ok (fs.content number) := by
  rw [FileSystem.read, find_name hplace hshort hnode]

theorem Stands.read (h : Stands fs dir name m) : fs.read m.path = .ok (fs.content m.file) := by
  obtain ⟨new, -, hshort, hplace, hnode⟩ := h
  exact read_of_place hplace hshort hnode

/-- Paths lead where they did as long as all that changes is a file. -/
theorem Preserves.place (h : Preserves fs fs' (dir ++ [name]))
    (hn : fs.node? (dir ++ [name]) = some (.file number)) {p : Place}
    (hp : fs.place path = .ok p) : fs'.place path = .ok p := by
  refine place_mono (fun l hl => (h l .dir ?_ hl).1) hp
  rintro rfl
  rw [hn] at hl
  simp at hl

theorem Stands.preserved (hm : Stands fs dir name m) (h : Preserves fs fs' (dir ++ [name]))
    (hn : fs.node? (dir ++ [name]) = some (.file number)) :
    Stands fs' dir name m ∧ fs'.content m.file = fs.content m.file := by
  obtain ⟨new, hne, hshort, hplace, hnode⟩ := hm
  obtain ⟨hnode', hcontent⟩ := h (dir ++ [new]) _ (by simpa using hne) hnode
  exact ⟨⟨new, hne, hshort, h.place hn hplace, hnode'⟩, hcontent _ rfl⟩

/-- The file at a path has been moved to another path, where nothing was. -/
def MovesTo (fs fs' : FileSystem) (path target : String) (file : Nat) : Prop :=
  ∃ l l', fs.find path = .ok (l, .file file) ∧ fs.has target = false ∧ fs.node? l' = none ∧
    fs'.find target = .ok (l', .file file)

/-! ## Pieces in files -/

/-- Texts that hold some pieces in order, each piece whole in one of them and none of them without
one. -/
def Grouped (pieces texts : List Bytes) : Prop :=
  ∃ groups : List (List Bytes), (∀ g ∈ groups, g ≠ []) ∧ groups.flatten = pieces ∧
    texts = groups.map List.flatten

variable {pieces texts : List Bytes} {piece text : Bytes}

theorem Grouped.concat (h : Grouped pieces texts) (piece : Bytes) :
    Grouped (pieces ++ [piece]) (texts ++ [piece]) := by
  obtain ⟨groups, hne, rfl, rfl⟩ := h
  refine ⟨groups ++ [[piece]], ?_, by simp, by simp⟩
  intro g hg
  rcases List.mem_append.mp hg with hg | hg
  · exact hne g hg
  · rw [List.mem_singleton.mp hg]
    exact List.cons_ne_nil _ _

theorem Grouped.extend (h : Grouped pieces (texts ++ [text])) (piece : Bytes) :
    Grouped (pieces ++ [piece]) (texts ++ [text ++ piece]) := by
  obtain ⟨groups, hne, rfl, htexts⟩ := h
  obtain ⟨gs, g, rfl⟩ : ∃ gs g, groups = gs ++ [g] := by
    rcases List.eq_nil_or_concat groups with rfl | ⟨gs, g, hg⟩
    · simp at htexts
    · exact ⟨gs, g, by simpa using hg⟩
  rw [List.map_append, List.map_singleton] at htexts
  obtain ⟨rfl, hlast⟩ := List.append_inj' htexts rfl
  obtain rfl : text = g.flatten := by simpa using hlast
  refine ⟨gs ++ [g ++ [piece]], ?_, by simp, by simp⟩
  intro x hx
  rcases List.mem_append.mp hx with hx | hx
  · exact hne x (List.mem_append_left _ hx)
  · rw [List.mem_singleton.mp hx]
    simp

/-- Texts that hold some pieces in order are these pieces, one after the other. -/
theorem Grouped.flatten (h : Grouped pieces texts) : texts.flatten = pieces.flatten := by
  obtain ⟨groups, -, rfl, rfl⟩ := h
  exact List.flatten_flatten.symm

/-! ## One write -/

/-- What the files moved away and the file itself hold. -/
def History.contents (s : History) (number : Nat) : List Bytes :=
  s.moves.map (fun m => s.files.content m.file) ++ [s.files.content number]

/-- What a run of writes keeps that removes no file. -/
structure Conserved (path : String) (dir : Location) (name : String) (number : Nat)
    (initial : Bytes) (calls : List Call) (s : History) : Prop where
  path : s.rotator.path = path
  attached : s.rotator.Attached s.files dir name number
  keepsAll : s.rotator.maxBackups = 0
  results : s.results = calls.map fun c => .ok c.bytes.length
  count : s.rotator.rotations = s.moves.length
  stands : ∀ m ∈ s.moves, Stands s.files dir name m
  contents : Grouped (initial :: calls.map (·.bytes)) (s.contents number)

theorem Conserved.moved_contents (h : Conserved path dir name number initial calls s)
    (hp : Preserves s.files fs' (dir ++ [name])) :
    s.moves.map (fun m => fs'.content m.file) = s.moves.map fun m => s.files.content m.file :=
  List.map_congr_left fun m hm => ((h.stands m hm).preserved hp h.attached.node).2

theorem Conserved.place (h : Conserved path dir name number initial calls s) :
    s.files.place path = .ok ⟨dir, .name name, false⟩ := h.path ▸ h.attached.place

theorem Conserved.read (h : Conserved path dir name number initial calls s) :
    s.files.read path = .ok (s.files.content number) :=
  read_of_place h.place h.attached.short h.attached.node

/-- Reading the files moved away and the file itself gives what they hold. -/
theorem Conserved.read_all (h : Conserved path dir name number initial calls s) :
    (s.moves.map (·.path) ++ [path]).map s.files.read = (s.contents number).map .ok := by
  simp only [History.contents, List.map_append, List.map_map, List.map_singleton, h.read]
  congr 1
  exact List.map_congr_left fun m hm => (h.stands m hm).read

theorem Conserved.step_small (h : Conserved path dir name number initial calls s)
    (hdue : s.rotator.isDue c.bytes.length = false) :
    Conserved path dir name number initial (calls ++ [c]) (s.step c) ∧
      Preserves s.files (s.step c).files (dir ++ [name]) := by
  have hp := Preserves.append h.attached.sound h.attached.node c.bytes
  rw [History.step_small h.attached hdue]
  refine ⟨⟨h.path, h.attached.append, h.keepsAll, ?_, h.count, ?_, ?_⟩, hp⟩
  · simp [h.results]
  · exact fun m hm => ((h.stands m hm).preserved hp h.attached.node).1
  · -- the payload joins the last group
    have hlast := h.contents.extend c.bytes
    rw [← h.moved_contents hp] at hlast
    simpa [History.contents] using hlast

/-- A write that is due moves the file to a free name and goes into a new one. -/
theorem Conserved.step_due (h : Conserved path dir name number initial calls s)
    (hdue : s.rotator.isDue c.bytes.length = true) (hpass : s.Passes c) :
    ∃ number', Conserved path dir name number' initial (calls ++ [c]) (s.step c) ∧
      Preserves s.files (s.step c).files (dir ++ [name]) ∧
      MovesTo s.files (s.step c).files path (backupPath path c.now s.files) number := by
  obtain rfl := h.path
  obtain ⟨m, fs', hpath, hunused, -, hplace, hmoved, hattached, hstep⟩ :=
    History.step_due h.attached hdue hpass
  rw [if_pos h.keepsAll] at hstep
  have hp : Preserves s.files (fs'.append s.files.next c.bytes) (dir ++ [name]) :=
    (hmoved.preserves h.attached.sound).trans (.append hattached.sound hattached.node _)
  have hplace' := hp.place h.attached.node hplace
  have hnode : (fs'.append s.files.next c.bytes).node? (dir ++ [name ++ suffix c.now.stamp m]) =
      some (.file number) := by
    rw [node?_append, hmoved.node, if_pos rfl]
  have hold : (fs'.append s.files.next c.bytes).content number = s.files.content number := by
    have := h.attached.sound.numbered _ _ h.attached.node
    rw [content_append, if_neg (by omega), hmoved.content, if_neg (by omega)]
  have hfresh : (fs'.append s.files.next c.bytes).content s.files.next = c.bytes := by
    rw [content_append, if_pos rfl, hmoved.content, if_pos rfl, List.nil_append]
  rw [hstep, hpath]
  refine ⟨s.files.next, ⟨rfl, hattached.append, h.keepsAll, ?_, ?_, ?_, ?_⟩, hp, ?_⟩
  · simp [h.results]
  · simp [h.count]
  · intro x hx
    rcases List.mem_append.mp hx with hx | hx
    · exact ((h.stands x hx).preserved hp h.attached.node).1
    · obtain rfl := List.mem_singleton.mp hx
      exact ⟨_, append_suffix_ne name _ _, hmoved.short, hplace', hnode⟩
  · -- the payload is a group of its own
    have hgroups := h.contents.concat c.bytes
    rw [History.contents, ← hold, ← h.moved_contents hp] at hgroups
    simpa [History.contents, hfresh] using hgroups
  · exact ⟨_, _, find_name h.attached.place h.attached.short h.attached.node, hunused,
      hmoved.free, find_name hplace' hmoved.short hnode⟩

/-! ## A run -/

theorem Conserved.step (h : Conserved path dir name number initial calls s) (hpass : s.Passes c) :
    ∃ number', Conserved path dir name number' initial (calls ++ [c]) (s.step c) ∧
      Preserves s.files (s.step c).files (dir ++ [name]) ∧
      ∀ m, s.move? c = some m → MovesTo s.files (s.step c).files path m.path m.file := by
  cases hdue : s.rotator.isDue c.bytes.length with
  | false =>
    obtain ⟨hnext, hp⟩ := h.step_small hdue
    exact ⟨number, hnext, hp, by simp [History.move?, hdue]⟩
  | true =>
    obtain ⟨number', hnext, hp, hmove⟩ := h.step_due hdue hpass
    refine ⟨number', hnext, hp, fun m hm => ?_⟩
    obtain rfl : ⟨backupPath path c.now s.files, number, c.now.seconds⟩ = m := by
      simpa [History.move?, hdue, h.attached.handle, h.path] using hm
    exact hmove

/-- What a run keeps, by induction over its writes. -/
theorem Conserved.writes {before : List Call}
    (h : Conserved path dir name number initial before s) (hcalls : s.Unhindered calls) :
    ∃ number', Conserved path dir name number' initial (before ++ calls) (s.writes calls) ∧
      Preserves s.files (s.writes calls).files (dir ++ [name]) := by
  induction calls generalizing s number before with
  | nil => exact ⟨number, by simpa using h, .refl _ _⟩
  | cons c calls ih =>
    obtain ⟨number₁, h₁, hp₁, -⟩ := h.step hcalls.1
    obtain ⟨number₂, h₂, hp₂⟩ := ih h₁ hcalls.2
    exact ⟨number₂, by simpa using h₂, hp₁.trans hp₂⟩

variable {maxSize : Nat} {fs₀ : FileSystem} {r : Rotator}

/-- A file just opened has lost nothing. -/
theorem conserved_opened (hs : fs₀.Sound) (h : create path maxSize 0 fs₀ = (.ok r, fs)) :
    ∃ dir name number, Conserved path dir name number (fs.content number) [] (opened r fs) ∧
      Preserves fs₀ fs (dir ++ [name]) ∧
      (fs₀.node? (dir ++ [name]) = some (.file number) ∧
          fs.content number = fs₀.content number ∨
        fs₀.node? (dir ++ [name]) = none ∧ fs.content number = []) := by
  obtain ⟨dir, name, number, hattached, rfl, hp, hinitial⟩ := create_ok hs h
  refine ⟨dir, name, number, ⟨rfl, hattached, rfl, rfl, rfl, by simp [opened], ?_⟩, hp, hinitial⟩
  exact ⟨[[fs.content number]], by simp, by simp, by simp [History.contents, opened]⟩

/-- **Nothing is lost.** A file is opened that keeps all that is moved away, and written to, with no
call to the file system failing. Each write gives the length of its payload. Each move takes the
file to a path that leads nowhere, and every name but the file's own leads to what it led to, as it
was. The files moved away, in the order of their moves, and the file itself hold what the file held
at first and then the payloads, in order and each of them whole. -/
theorem rotation_conserves (hs : fs₀.Sound) (hopen : create path maxSize 0 fs₀ = (.ok r, fs))
    (hcalls : (opened r fs).Unhindered calls) :
    ∃ (file : Location) (initial : Bytes), fs.read path = .ok initial ∧
      ((∃ n, fs₀.node? file = some (.file n) ∧ fs₀.content n = initial) ∨
        fs₀.node? file = none ∧ initial = []) ∧
      ((opened r fs).writes calls).results = calls.map (fun c => .ok c.bytes.length) ∧
      ((opened r fs).writes calls).rotator.rotations =
        ((opened r fs).writes calls).moves.length ∧
      (∀ before c after, calls = before ++ c :: after →
        ∀ m, ((opened r fs).writes before).move? c = some m →
          MovesTo ((opened r fs).writes before).files ((opened r fs).writes (before ++ [c])).files
            path m.path m.file) ∧
      Preserves fs₀ ((opened r fs).writes calls).files file ∧
      (∀ before after, calls = before ++ after →
        Preserves ((opened r fs).writes before).files ((opened r fs).writes calls).files file) ∧
      ∃ groups : List (List Bytes), (∀ g ∈ groups, g ≠ []) ∧
        groups.flatten = initial :: calls.map (·.bytes) ∧
        (((opened r fs).writes calls).moves.map (·.path) ++ [path]).map
            ((opened r fs).writes calls).files.read =
          groups.map fun g => .ok g.flatten := by
  obtain ⟨dir, name, number, hopened, hp, hinitial⟩ := conserved_opened hs hopen
  obtain ⟨number', h, hp'⟩ := hopened.writes hcalls
  refine ⟨dir ++ [name], fs.content number, ?_, ?_, h.results, h.count, ?_, hp.trans hp', ?_, ?_⟩
  · exact hopened.read
  · rcases hinitial with ⟨hnode, hcontent⟩ | hnew
    · exact .inl ⟨number, hnode, hcontent.symm⟩
    · exact .inr hnew
  · rintro before c after rfl m hm
    obtain ⟨hbefore, hpass, -⟩ := History.unhindered_append.mp hcalls
    obtain ⟨number₁, h₁, -⟩ := hopened.writes hbefore
    obtain ⟨-, -, -, hmove⟩ := h₁.step hpass
    rw [History.writes_append]
    exact hmove m hm
  · rintro before after rfl
    obtain ⟨hbefore, hafter⟩ := History.unhindered_append.mp hcalls
    obtain ⟨number₁, h₁, -⟩ := hopened.writes hbefore
    obtain ⟨-, -, hp₁⟩ := h₁.writes hafter
    rwa [History.writes_append]
  · obtain ⟨groups, hne, hflat, hcontents⟩ := h.contents
    refine ⟨groups, hne, hflat, ?_⟩
    rw [h.read_all, hcontents, List.map_map]
    rfl

/-- A file beside another one that has the first name it would be moved to. -/
def occupied : FileSystem :=
  ((empty.newFile ["app.log"]).append 0 [1]).newFile ["app.log.19700101T000000"]

theorem sound_occupied : occupied.Sound :=
  ((Sound.empty.newFile (by simp) rfl rfl).append 0 [1]).newFile (by simp) rfl rfl

/-- Three writes, with the clock going back before the second one. -/
theorem rotation_conserves_occupied :
    ∃ s, s = (opened ⟨"app.log", 2, 0, some 0, 1, false, 0, 0⟩ occupied).writes
        [⟨0, [2, 3]⟩, ⟨-1, [4]⟩, ⟨0, [5, 6, 7]⟩] ∧
      s.results = [.ok 2, .ok 1, .ok 3] ∧ s.rotator.rotations = s.moves.length ∧
      ∃ groups : List (List Bytes), groups.flatten = [[1], [2, 3], [4], [5, 6, 7]] ∧
        (s.moves.map (·.path) ++ ["app.log"]).map s.files.read =
          groups.map fun g => .ok g.flatten := by
  have hopen : create "app.log" 2 0 occupied =
      (.ok ⟨"app.log", 2, 0, some 0, 1, false, 0, 0⟩, occupied) := rfl
  have hcalls : (opened ⟨"app.log", 2, 0, some 0, 1, false, 0, 0⟩ occupied).Unhindered
      [⟨0, [2, 3]⟩, ⟨-1, [4]⟩, ⟨0, [5, 6, 7]⟩] :=
    ⟨fun _ => rfl, fun _ => rfl, fun _ => rfl, trivial⟩
  obtain ⟨file, initial, hread, -, hresults, hcount, -, -, -, groups, -, hflat, hall⟩ :=
    rotation_conserves sound_occupied hopen hcalls
  have hinitial : occupied.read "app.log" = .ok [1] := rfl
  rw [hinitial] at hread
  cases hread
  exact ⟨_, rfl, hresults, hcount, groups, hflat, hall⟩

end LogPipeline.Rotator
