import LogPipeline.File.Error
import LogPipeline.File.Path
import LogPipeline.Table
import LogPipeline.Text.Utf8

/-!
# A file system

A tree of directories below a working directory. Names lead to directories or to files, and files
have numbers: an open file is known by its number, so it is still there after its name has been
changed, removed or given to another file.

Paths are resolved one component at a time. Every component but the last has to name a directory.
-/

namespace LogPipeline

/-- The names that lead from the working directory to an entry. -/
abbrev Location := List String

/-- What a name leads to. -/
inductive Node where
  | dir
  | file (number : Nat)
  deriving DecidableEq, Repr

/-- The directories and files below the working directory. -/
structure FileSystem where
  entries : List (Location × Node)
  contents : Table Bytes
  /-- The number of the next file. -/
  next : Nat
  deriving Repr

/-- The last component of a path. -/
inductive LastPart where
  | name (s : String)
  | dot
  | dotDot
  deriving DecidableEq, Repr

/-- A path resolved up to its last component. -/
structure Place where
  dir : Location
  last : LastPart
  /-- Whether a slash stands at the end. -/
  trailing : Bool
  deriving Repr

namespace FileSystem

def empty : FileSystem := ⟨[], .empty, 0⟩

instance : Inhabited FileSystem := ⟨empty⟩

/-- What stands at a location. -/
def node? (fs : FileSystem) (l : Location) : Option Node :=
  if l.isEmpty then some .dir else fs.entries.lookup l

/-- What a file holds. -/
def content (fs : FileSystem) (number : Nat) : Bytes := (fs.contents.find? number).getD []

/-- The longest name and the longest path, in octets. -/
def nameLimit : Nat := 255

def pathLimit : Nat := 4095

/-- Follows the components of a path through directories. -/
def follow (fs : FileSystem) : Location → List String → Except OsError Location
  | l, [] => .ok l
  | l, "." :: rest => fs.follow l rest
  | l, ".." :: rest => fs.follow l.dropLast rest
  | l, name :: rest =>
    if nameLimit < name.utf8ByteSize then .error .nameTooLong
    else match fs.node? (l ++ [name]) with
      | none => .error .notFound
      | some (.file _) => .error .notDirectory
      | some .dir => fs.follow (l ++ [name]) rest

/-- The components of a path. -/
def components (path : String) : List String :=
  ((path.toList.splitOn '/').filter (!·.isEmpty)).map String.ofList

/-- Whether a path holds a NUL character, so that nothing can be asked about it. -/
def hasNul (path : String) : Bool := path.toList.contains '\x00'

/-- Resolves a path up to its last component. -/
def place (fs : FileSystem) (path : String) : Except IoError Place :=
  if hasNul path then .error .nulInPath
  else if path.isEmpty then .error (.os .notFound)
  else if pathLimit < path.utf8ByteSize then .error (.os .nameTooLong)
  else
    let parts := components path
    match fs.follow [] parts.dropLast with
    | .error e => .error (.os e)
    | .ok dir =>
      let last := match parts.getLast? with
        | none => .dot
        | some "." => .dot
        | some ".." => .dotDot
        | some name => .name name
      .ok ⟨dir, last, path.toList.getLast? == some '/'⟩

/-- The location and the node at the end of a path. -/
def find (fs : FileSystem) (path : String) : Except IoError (Location × Node) := do
  let p ← fs.place path
  match p.last with
  | .dot => .ok (p.dir, .dir)
  | .dotDot => .ok (p.dir.dropLast, .dir)
  | .name name =>
    if nameLimit < name.utf8ByteSize then .error (.os .nameTooLong)
    else match fs.node? (p.dir ++ [name]) with
      | none => .error (.os .notFound)
      | some (.file number) =>
        if p.trailing then .error (.os .notDirectory)
        else .ok (p.dir ++ [name], .file number)
      | some .dir => .ok (p.dir ++ [name], .dir)

/-- Whether the path leads to anything. -/
def has (fs : FileSystem) (path : String) : Bool := (fs.find path).toOption.isSome

def isDir (fs : FileSystem) (path : String) : Bool :=
  match fs.find path with
  | .ok (_, .dir) => true
  | _ => false

/-- Adds a name at the end of the entries. -/
def link (fs : FileSystem) (l : Location) (n : Node) : FileSystem :=
  { fs with entries := fs.entries ++ [(l, n)] }

/-- Removes a name. -/
def unlink (fs : FileSystem) (l : Location) : FileSystem :=
  { fs with entries := fs.entries.filter (·.1 != l) }

theorem node?_link (fs : FileSystem) (l m : Location) (n : Node) :
    (fs.link l n).node? m = (fs.node? m).or (if m = l then some n else none) := by
  unfold node? link
  by_cases hm : m.isEmpty
  · simp [hm]
  · rw [if_neg hm, if_neg hm, List.lookup_append]
    by_cases h : m = l
    · simp [h]
    · simp [h, List.lookup_cons, show (m == l) = false from beq_false_of_ne h]

theorem node?_unlink (fs : FileSystem) (l m : Location) (hm : m ≠ []) :
    (fs.unlink l).node? m = if m = l then none else fs.node? m := by
  have hm : m.isEmpty = false := by simpa using hm
  unfold node? unlink
  rw [hm]
  induction fs.entries with
  | nil => simp
  | cons e rest ih =>
    obtain ⟨k, n⟩ := e
    by_cases hk : k = l
    · subst hk
      rw [List.filter_cons_of_neg (by simp)]
      by_cases h : m = k
      · simpa [h] using ih
      · simpa [h, List.lookup_cons, show (m == k) = false from beq_false_of_ne h] using ih
    · rw [List.filter_cons_of_pos (by simpa using hk)]
      by_cases h : m = k
      · simp [h, hk]
      · simpa [List.lookup_cons, show (m == k) = false from beq_false_of_ne h] using ih

/-- Puts octets into a file in the place of what it held. -/
def setContent (fs : FileSystem) (number : Nat) (bytes : Bytes) : FileSystem :=
  { fs with contents := fs.contents.put number bytes }

/-- Puts octets after what a file holds. -/
def append (fs : FileSystem) (number : Nat) (bytes : Bytes) : FileSystem :=
  fs.setContent number (fs.content number ++ bytes)

@[simp] theorem content_setContent (fs : FileSystem) (i j : Nat) (bytes : Bytes) :
    (fs.setContent i bytes).content j = if i = j then bytes else fs.content j := by
  simp only [content, setContent, Table.find?_put]
  split <;> rfl

@[simp] theorem content_append (fs : FileSystem) (i j : Nat) (bytes : Bytes) :
    (fs.append i bytes).content j = if i = j then fs.content i ++ bytes else fs.content j :=
  content_setContent fs i j (fs.content i ++ bytes)

/-- Opens a file for appending and makes an empty one if there is none. The result is its number. -/
def openAppend (fs : FileSystem) (path : String) : Except IoError Nat × FileSystem :=
  match fs.place path with
  | .error e => (.error e, fs)
  | .ok p =>
    match p.last with
    | .dot | .dotDot => (.error (.os .isDirectory), fs)
    | .name name =>
      if p.trailing then (.error (.os .isDirectory), fs)
      else if nameLimit < name.utf8ByteSize then (.error (.os .nameTooLong), fs)
      else match fs.node? (p.dir ++ [name]) with
        | some .dir => (.error (.os .isDirectory), fs)
        | some (.file number) => (.ok number, fs)
        | none =>
          (.ok fs.next,
            { fs.link (p.dir ++ [name]) (.file fs.next) with
              contents := fs.contents.put fs.next [], next := fs.next + 1 })

/-- Writes a file, in the place of what it held. -/
def write (fs : FileSystem) (path : String) (bytes : Bytes) : Except IoError Unit × FileSystem :=
  match fs.openAppend path with
  | (.error e, fs) => (.error e, fs)
  | (.ok number, fs) => (.ok (), fs.setContent number bytes)

/-- Reads a file. -/
def read (fs : FileSystem) (path : String) : Except IoError Bytes :=
  match fs.find path with
  | .error e => .error e
  | .ok (_, .dir) => .error (.os .isDirectory)
  | .ok (_, .file number) => .ok (fs.content number)

/-- Reads a file as text. -/
def readText (fs : FileSystem) (path : String) : Except IoError String :=
  match fs.read path with
  | .error e => .error e
  | .ok bytes =>
    match Text.utf8Decode? bytes with
    | some s => .ok s
    | none => .error .notUtf8

/-- Makes a directory in one that is there. -/
def makeDir (fs : FileSystem) (path : String) : Except IoError Unit × FileSystem :=
  match fs.place path with
  | .error e => (.error e, fs)
  | .ok p =>
    match p.last with
    | .dot | .dotDot => (.error (.os .alreadyExists), fs)
    | .name name =>
      if nameLimit < name.utf8ByteSize then (.error (.os .nameTooLong), fs)
      else match fs.node? (p.dir ++ [name]) with
        | some _ => (.error (.os .alreadyExists), fs)
        | none => (.ok (), fs.link (p.dir ++ [name]) .dir)

/-- `makeDirs`, with one unit of `fuel` for each component. -/
def makeDirsWithin : Nat → FileSystem → String → Except IoError Unit × FileSystem
  | 0, fs, _ => (.error (.os .notFound), fs)
  | fuel + 1, fs, path =>
    if path.isEmpty then (.ok (), fs)
    else match fs.makeDir path with
      | (.ok (), fs) => (.ok (), fs)
      | (.error (.os .notFound), fs) =>
        match makeDirsWithin fuel fs ((Path.parent? path).getD "") with
        | (.error e, fs) => (.error e, fs)
        | (.ok (), fs) =>
          match fs.makeDir path with
          | (.ok (), fs) => (.ok (), fs)
          | (.error e, fs) => if fs.isDir path then (.ok (), fs) else (.error e, fs)
      | (.error e, fs) => if fs.isDir path then (.ok (), fs) else (.error e, fs)

/-- Makes a directory and those above it that are missing. One that is there already is no
error. -/
def makeDirs (fs : FileSystem) (path : String) : Except IoError Unit × FileSystem :=
  makeDirsWithin (path.length + 1) fs path

/-- The names in a directory. -/
def namesIn (fs : FileSystem) (dir : Location) : List String :=
  fs.entries.filterMap fun (l, _) =>
    match l.getLast? with
    | some name => if l == dir ++ [name] then some name else none
    | none => none

/-- The names in the directory at the end of a path. -/
def list (fs : FileSystem) (path : String) : Except IoError (List String) :=
  match fs.find path with
  | .error e => .error e
  | .ok (_, .file _) => .error (.os .notDirectory)
  | .ok (dir, .dir) => .ok (fs.namesIn dir)

/-- Removes a file. -/
def removeFile (fs : FileSystem) (path : String) : Except IoError Unit × FileSystem :=
  match fs.place path with
  | .error e => (.error e, fs)
  | .ok p =>
    match p.last with
    | .dot | .dotDot => (.error (.os .isDirectory), fs)
    | .name name =>
      if nameLimit < name.utf8ByteSize then (.error (.os .nameTooLong), fs)
      else match fs.node? (p.dir ++ [name]) with
        | none => (.error (.os .notFound), fs)
        | some .dir => (.error (.os .isDirectory), fs)
        | some (.file _) =>
          if p.trailing then (.error (.os .notDirectory), fs)
          else (.ok (), fs.unlink (p.dir ++ [name]))

/-- Whether a location lies below another one. -/
def isBelow (dir l : Location) : Bool := dir.isPrefixOf l && dir != l

/-- Removes all that lies below a location. -/
def clear (fs : FileSystem) (dir : Location) : FileSystem :=
  { fs with entries := fs.entries.filter fun e => !isBelow dir e.1 }

/-- Removes a directory and all below it. A directory that is named `.` or `..` cannot be removed
itself, but what lies below it is gone. -/
def removeTree (fs : FileSystem) (path : String) : Except IoError Unit × FileSystem :=
  match fs.place path, fs.find path with
  | .error e, _ | _, .error e => (.error e, fs)
  | .ok _, .ok (_, .file _) => (.error (.os .notDirectory), fs)
  | .ok p, .ok (dir, .dir) =>
    match p.last with
    | .dot => (.error (.os .invalidArgument), fs.clear dir)
    | .dotDot => (.error (.os .notEmpty), fs.clear dir)
    | .name _ => (.ok (), (fs.clear dir).unlink dir)

/-- The location of an entry after the directory `src` has become `dst`. -/
def moved (src dst l : Location) : Location :=
  if src.isPrefixOf l then dst ++ l.drop src.length else l

/-- Gives an entry another name, in the place of a file or an empty directory that had it. A NUL in
either path is found before anything else. -/
def rename (fs : FileSystem) (path newPath : String) : Except IoError Unit × FileSystem :=
  match (if hasNul newPath then .error .nulInPath else fs.place path) with
  | .error e => (.error e, fs)
  | .ok source =>
    match fs.place newPath with
    | .error e => (.error e, fs)
    | .ok target =>
      match source.last, target.last with
      | .name old, .name new =>
        let src := source.dir ++ [old]
        let dst := target.dir ++ [new]
        if nameLimit < old.utf8ByteSize then (.error (.os .nameTooLong), fs)
        else match fs.node? src with
          | none => (.error (.os .notFound), fs)
          | some node =>
            if nameLimit < new.utf8ByteSize then (.error (.os .nameTooLong), fs)
            else if node != .dir && (source.trailing || target.trailing) then
              (.error (.os .notDirectory), fs)
            else if src == dst then (.ok (), fs)
            else if isBelow src dst then (.error (.os .invalidArgument), fs)
            else if isBelow dst src then (.error (.os .notEmpty), fs)
            else
              let move (fs : FileSystem) : FileSystem :=
                { fs with entries := fs.entries.map fun e => (moved src dst e.1, e.2) }
              match node, fs.node? dst with
              | _, none => (.ok (), move fs)
              | .dir, some (.file _) => (.error (.os .notDirectory), fs)
              | .dir, some .dir =>
                if (fs.namesIn dst).isEmpty then (.ok (), move (fs.unlink dst))
                else (.error (.os .notEmpty), fs)
              | .file _, some .dir => (.error (.os .isDirectory), fs)
              | .file a, some (.file b) =>
                if a == b then (.ok (), fs) else (.ok (), move (fs.unlink dst))
      | _, _ => (.error (.os .busy), fs)

/-- Every entry as a path, directories with a slash at the end and files with what they hold, in
the order of their paths. -/
def listing (fs : FileSystem) : List (String × Option Bytes) :=
  (fs.entries.map fun (l, n) =>
    match n with
    | .dir => ("/".intercalate l ++ "/", none)
    | .file number => ("/".intercalate l, some (fs.content number))).mergeSort
    fun a b => a.1 ≤ b.1

end FileSystem

end LogPipeline
