import LogPipeline.File.System
import LogPipeline.Sink.SetupError
import LogPipeline.Text.Quoted
import LogPipeline.Time

/-!
# Rotating files

A file for appending that is moved away before a write would make it too large. It is moved to its
own name with the time behind it, and with a counter behind that if there is an entry of that name
already; then a new file is opened, and the oldest of the files moved away are removed until only
so many are left as are to be kept.

If the file cannot be moved, writing goes on in the old one. If no file can be opened, the write
fails, and the next one tries again.
-/

namespace LogPipeline

/-- A rotating file. -/
structure Rotator where
  path : String
  /-- The size that a write may not exceed; zero for no limit. -/
  maxSize : Nat
  /-- How many files moved away are kept; zero for all. -/
  maxBackups : Nat
  /-- The number of the open file. -/
  handle : Option Nat
  /-- The octets in the open file. -/
  size : Nat
  closed : Bool
  rotations : Nat
  failures : Nat
  deriving DecidableEq, Repr

namespace Rotator

/-- What stands between the name of the file and the time behind it. -/
def separator : String := "."

/-- The name of the `n`-th choice for a file moved away. -/
def backupName (base : String) (n : Nat) : String :=
  if n = 0 then base else base ++ "." ++ padded 3 n

/-- The first choice from the `n`-th on that names no entry; `more` are tried after it. -/
def freeName (fs : FileSystem) (base : String) (n : Nat) : Nat → String
  | 0 => backupName base n
  | more + 1 =>
    if fs.has (backupName base n) then freeName fs base (n + 1) more else backupName base n

/-- Where the file is moved to. Of one more names than there are entries one is free. -/
def backupPath (path : String) (now : Timestamp) (fs : FileSystem) : String :=
  freeName fs (path ++ separator ++ now.stamp) 0 (fs.entries.length + 1)

/-- The directory of the file. -/
def directory (path : String) : String :=
  match Path.parent? path with
  | none => "."
  | some dir => if dir.isEmpty then "." else dir

/-- The files moved away, by their names in ascending order. -/
def backups (path : String) (fs : FileSystem) : List String :=
  match Path.fileName? path with
  | none => []
  | some name =>
    match fs.list (directory path) with
    | .error _ => []
    | .ok names =>
      ((names.filter fun n => (name ++ separator).toList.isPrefixOf n.toList).mergeSort
        fun a b => a ≤ b).map (Path.join (directory path))

/-- Removes the first of the files moved away, so that `keep` are left. One that cannot be removed
stays. -/
def prune (path : String) (keep : Nat) (fs : FileSystem) : FileSystem :=
  let all := backups path fs
  (all.take (all.length - keep)).foldl (fun fs old => (fs.removeFile old).2) fs

/-- Opens a rotating file, in a directory that is made if it is missing. -/
def create (path : String) (maxSize maxBackups : Nat) (fs : FileSystem) :
    Except SetupError Rotator × FileSystem :=
  let dir := (Path.parent? path).getD ""
  match (if dir.isEmpty then (.ok (), fs) else fs.makeDirs dir : Except IoError Unit × FileSystem)
  with
  | (.error e, fs) => (.error (.createDir dir e), fs)
  | (.ok (), fs) =>
    match fs.openAppend path with
    | (.error e, fs) => (.error (.openFile path e), fs)
    | (.ok number, fs) =>
      (.ok ⟨path, maxSize, maxBackups, some number, (fs.content number).length, false, 0, 0⟩, fs)

/-- Opens the file again. -/
def reopen (r : Rotator) (fs : FileSystem) : Except IoError Unit × Rotator × FileSystem :=
  match fs.openAppend r.path with
  | (.error e, fs) => (.error e, r, fs)
  | (.ok number, fs) =>
    (.ok (), { r with handle := some number, size := (fs.content number).length }, fs)

/-- Moves the file away and opens a new one. -/
def rotate (r : Rotator) (now : Timestamp) (fs : FileSystem) :
    Except IoError Unit × Rotator × FileSystem :=
  let r := { r with handle := none }
  match fs.rename r.path (backupPath r.path now fs) with
  | (.error e, fs) =>
    match r.reopen fs with
    | (.error e, r, fs) => (.error e, r, fs)
    | (.ok (), r, fs) => (.error e, r, fs)
  | (.ok (), fs) =>
    match fs.openAppend r.path with
    | (.error e, fs) => (.error e, r, fs)
    | (.ok number, fs) =>
      (.ok (), { r with handle := some number, size := 0 },
        if r.maxBackups = 0 then fs else prune r.path r.maxBackups fs)

/-- Whether a write of so many octets has to go to a new file. -/
def isDue (r : Rotator) (length : Nat) : Bool := 0 < r.maxSize && r.maxSize < r.size + length

/-- Rotates and counts the success or failure. -/
def rotateCounted (r : Rotator) (now : Timestamp) (fs : FileSystem) : Rotator × FileSystem :=
  match r.rotate now fs with
  | (.ok (), r, fs) => ({ r with rotations := r.rotations + 1 }, fs)
  | (.error _, r, fs) => ({ r with failures := r.failures + 1 }, fs)

/-- Opens the file again if none is open. -/
def ensureOpen (r : Rotator) (fs : FileSystem) : Except IoError Unit × Rotator × FileSystem :=
  if r.handle.isSome then (.ok (), r, fs) else r.reopen fs

/-- Puts octets at the end of the open file. -/
def put (r : Rotator) (bytes : Bytes) (fs : FileSystem) :
    Except IoError Nat × Rotator × FileSystem :=
  match r.handle with
  | none => (.error .closed, r, fs)
  | some number =>
    (.ok bytes.length, { r with size := r.size + bytes.length }, fs.append number bytes)

/-- Writes octets whole, after a rotation if one is due. -/
def write (r : Rotator) (now : Timestamp) (bytes : Bytes) (fs : FileSystem) :
    Except IoError Nat × Rotator × FileSystem :=
  if r.closed then (.error .closed, r, fs)
  else match r.ensureOpen fs with
    | (.error e, r, fs) => (.error e, r, fs)
    | (.ok (), r, fs) =>
      if r.isDue bytes.length then
        let (r, fs) := r.rotateCounted now fs
        match r.ensureOpen fs with
        | (.error e, r, fs) => (.error e, r, fs)
        | (.ok (), r, fs) => r.put bytes fs
      else r.put bytes fs

/-- Closes the file for good. -/
def close (r : Rotator) : Rotator := { r with handle := none, closed := true }

/-- The text of a rotating file for debugging. -/
def debugText (r : Rotator) : String :=
  "RotatingWriter \x7b path: " ++ Text.quote r.path ++ ", max_size: " ++ toString r.maxSize ++
  ", max_backups: " ++ toString r.maxBackups ++ ", rotations: " ++ toString r.rotations ++ " \x7d"

end Rotator

end LogPipeline
