import LogPipeline.Text.Blank
import LogPipeline.Url.Host

/-!
# Reading URLs

A text is split into scheme, authority, path, query and fragment. The well-known schemes `http`,
`https`, `ws`, `wss`, `ftp` and `file` always have an authority and a path of segments, and take a
backslash for a slash. Characters that may not stand in a part are percent encoded, `.` and `..`
segments are resolved, and a port that is the usual one of the scheme is left out.
-/

namespace LogPipeline.Url

/-- What the rules of a URL depend on. -/
inductive SchemeKind where
  | file
  | special
  | other
  deriving DecidableEq, Repr

/-- The usual port of a well-known scheme. -/
def usualPort? : String → Option Nat
  | "http" | "ws" => some 80
  | "https" | "wss" => some 443
  | "ftp" => some 21
  | _ => none

def SchemeKind.of (scheme : String) : SchemeKind :=
  if scheme == "file" then .file
  else if (usualPort? scheme).isSome then .special
  else .other

/-- Whether a character separates segments of a path. -/
def SchemeKind.isSlash (k : SchemeKind) (c : Char) : Bool :=
  c == '/' || (k != .other && c == '\\')

/-- Whether a character ends the authority. -/
def SchemeKind.endsAuthority (k : SchemeKind) (c : Char) : Bool :=
  k.isSlash c || c == '?' || c == '#'

/-! ## The text -/

/-- The text without controls and spaces at its ends. -/
def trimmed (s : String) : List Char :=
  let blank (c : Char) : Bool := c.toNat ≤ 0x20
  ((s.toList.dropWhile blank).reverse.dropWhile blank).reverse

/-- Tabs and line ends, which are passed over; only behind the drive of a file do they count. -/
def isBreak (c : Char) : Bool := c == '\t' || c == '\n' || c == '\r'

def withoutBreaks (cs : List Char) : List Char := cs.filter (!isBreak ·)

/-- Whether a character may stand in a scheme after its first. -/
def inScheme (c : Char) : Bool := c.isAlphanum || c == '+' || c == '-' || c == '.'

/-- The scheme in lower case, and the text behind its colon, breaks included. -/
def splitScheme (cs : List Char) : Option (String × List Char) :=
  let scheme := withoutBreaks (cs.takeWhile (· != ':'))
  match cs.dropWhile (· != ':') with
  | [] => none
  | _ :: rest =>
    if scheme.head?.any Char.isAlpha && scheme.all inScheme then
      some (Text.asciiLower (String.ofList scheme), rest)
    else none

/-! ## Paths -/

/-- Whether a segment, percent encoded or not, is `.`. -/
def isDot (segment : List Char) : Bool :=
  ["." , "%2e"].contains (Text.asciiLower (String.ofList segment))

/-- Whether a segment, percent encoded or not, is `..`. -/
def isDoubleDot (segment : List Char) : Bool :=
  ["..", ".%2e", "%2e.", "%2e%2e"].contains (Text.asciiLower (String.ofList segment))

/-- Whether a segment is a letter and a colon or bar, as the drives of some systems are named. -/
def isDrive : List Char → Bool
  | [letter, mark] => letter.isAlpha && (mark == ':' || mark == '|')
  | _ => false

/-- Drops the last segment that was read, unless it names a drive. A backslash ends the name of a
drive even where it does not separate segments. -/
def popSegment : List (List Char) → List (List Char)
  | [] => []
  | s :: rest => if isDrive (s.takeWhile (· != '\\')) then s :: rest else rest

/-- A path that is read segment by segment. -/
structure PathReader where
  /-- The segments that are complete, the last of which comes first. -/
  done : List (List Char) := []
  /-- The beginning of the current segment, reversed. -/
  segment : List Char := []
  /-- Whether only a break separates the current segment from a drive before it. Such a segment is
  taken as it is. -/
  isBehindDrive : Bool := false
  /-- Whether the first segment of a file's path was found to name a drive. -/
  onDrive : Bool := false

/-- Adds the current segment to those before it; a drive at the front of a file's path gets a
colon. -/
def PathReader.add (r : PathReader) (k : SchemeKind) : PathReader :=
  let segment := r.segment.reverse
  if k == .file && r.done.isEmpty && isDrive segment then
    { done := [segment.take 1 ++ [':']], onDrive := true }
  else { done := percentEncode reservedInPath segment :: r.done, onDrive := r.onDrive }

/-- Ends the current segment at a slash. -/
def PathReader.close (r : PathReader) (k : SchemeKind) : PathReader :=
  let segment := r.segment.reverse
  if r.isBehindDrive then r.add k
  else if isDoubleDot segment then { done := popSegment r.done, onDrive := r.onDrive }
  else if isDot segment then { done := r.done, onDrive := r.onDrive }
  else r.add k

/-- Ends the path. Behind `.` or `..` it ends in a slash. -/
def PathReader.finish (r : PathReader) (k : SchemeKind) : PathReader :=
  let segment := r.segment.reverse
  let closed := r.close k
  if !r.isBehindDrive && (isDot segment || isDoubleDot segment) then
    { closed with done := [] :: closed.done }
  else closed

/-- Whether the path so far is a drive, with a colon, at the front of a file's path. -/
def PathReader.isDriveOnly (r : PathReader) (k : SchemeKind) : Bool :=
  k == .file && r.done.isEmpty && isDrive r.segment.reverse && r.segment.head? == some ':'

/-- Reads segments up to the query or fragment; the rest of the text is given back. A break after a
drive at the front of a file's path separates it from the characters behind. -/
def readSegments (k : SchemeKind) (r : PathReader) : List Char → PathReader × List Char
  | [] => (r.finish k, [])
  | c :: rest =>
    if k.isSlash c then readSegments k (r.close k) rest
    else if c == '?' || c == '#' then (r.finish k, c :: rest)
    else if isBreak c then
      let next := (rest.dropWhile isBreak).head?
      if r.isDriveOnly k && next.any (!k.endsAuthority ·) then
        readSegments k { done := [r.segment.reverse], isBehindDrive := true } rest
      else readSegments k r rest
    else readSegments k { r with segment := c :: r.segment } rest

/-- The segments in order. -/
def PathReader.segments (r : PathReader) : List (List Char) := r.done.reverse

/-- Segments as a path. -/
def pathText (segments : List (List Char)) : String :=
  String.ofList (segments.flatMap ('/' :: ·))

/-- A path from its root on, the slash of which may be missing. -/
def readPath (k : SchemeKind) (cs : List Char) : PathReader × List Char :=
  match cs.dropWhile isBreak with
  | c :: rest => if k.isSlash c then readSegments k {} rest else readSegments k {} (c :: rest)
  | [] => readSegments k {} []

/-! ## Query and fragment -/

/-- The query and the fragment of the text behind a path. -/
def readEnd (k : SchemeKind) (cs : List Char) : Option String × Option String :=
  let reserved := if k == .other then reservedInQuery else reservedInSpecialQuery
  let query := match cs.takeWhile (· != '#') with
    | '?' :: q => some (String.ofList (percentEncode reserved q))
    | _ => none
  let fragment := match cs.dropWhile (· != '#') with
    | _ :: f => some (String.ofList (percentEncode reservedInFragment f))
    | [] => none
  (query, fragment)

/-! ## Authorities -/

/-- The last `@` splits the user from the host. -/
def splitUser (cs : List Char) : Option (List Char) × List Char :=
  match cs.reverse.dropWhile (· != '@') with
  | [] => (none, cs)
  | _ :: user => (some user.reverse, (cs.reverse.takeWhile (· != '@')).reverse)

/-- Splits a host from its port: the first colon outside of brackets. -/
def splitPort (inBrackets : Bool) : List Char → List Char × Option (List Char)
  | [] => ([], none)
  | c :: rest =>
    if c == ':' && !inBrackets then ([], some rest)
    else
      let inside := if c == '[' then true else if c == ']' then false else inBrackets
      (c :: (splitPort inside rest).1, (splitPort inside rest).2)

/-- Reads a port; one that is the usual one of the scheme is none. The text ends at a backslash even
where that does not separate segments, so the rest after it is given back. -/
def readPort (scheme : String) (cs : List Char) : Except Error (Option Nat × List Char) :=
  let digits := cs.takeWhile Char.isDigit
  let rest := cs.dropWhile Char.isDigit
  let n := digits.foldl (fun n c => n * 10 + (c.toNat - 48)) 0
  if 65535 < n then .error .invalidPort
  else match rest with
    | [] | '\\' :: _ =>
      .ok (if digits.isEmpty || usualPort? scheme == some n then none else some n, rest)
    | _ :: _ => .error .invalidPort

/-- The user name and password in percent encoding. -/
def userParts (user : List Char) : String × String :=
  let encode (cs : List Char) : String := String.ofList (percentEncode reservedInUser cs)
  (encode (user.takeWhile (· != ':')), encode ((user.dropWhile (· != ':')).drop 1))

/-- Reads an authority; the text that is given back belongs to the path. -/
def readAuthority (scheme : String) (cs : List Char) : Except Error (Authority × List Char) :=
  let k := SchemeKind.of scheme
  let all := cs.takeWhile (!k.endsAuthority ·)
  let after := cs.dropWhile (!k.endsAuthority ·)
  let (user, rest) := splitUser all
  let (username, password) := userParts (user.getD [])
  let (hostText, portText) := splitPort false rest
  if user == some [] && rest.isEmpty && !after.isEmpty then .error .emptyHost
  else if hostText.isEmpty && k == .special then .error .emptyHost
  else do
    let host ← if k == .other then otherHost? hostText else specialHost? hostText
    if host.isEmpty && portText.isSome then throw .emptyHost
    let (port, behind) ← match portText with
      | none => pure (none, [])
      | some digits => readPort scheme digits
    if host.isEmpty && !(username.isEmpty && password.isEmpty) then throw .emptyHost
    return (⟨username, password, host, port⟩, behind ++ after)

/-! ## URLs -/

/-- A URL with an authority, from the text behind the two slashes. -/
def afterSlashes (scheme : String) (cs : List Char) : Except Error Url := do
  let k := SchemeKind.of scheme
  let (authority, rest) ← readAuthority scheme cs
  let hasPath := k != .other || !(rest.isEmpty || rest.head? == some '?' || rest.head? == some '#')
  let (path, behind) := if hasPath then readPath k rest else ({}, rest)
  let (query, fragment) := readEnd k behind
  return ⟨scheme, some authority, pathText path.segments, query, fragment⟩

/-- The path of a file: empty segments at its front are left out. -/
def filePath (segments : List (List Char)) : String :=
  String.ofList ('/' :: (pathText segments).toList.dropWhile (· == '/'))

/-- The URL of a file with the given host and path. A drive takes the host away. -/
def fileUrl (host : String) (path : PathReader) (behind : List Char) : Url :=
  let (query, fragment) := readEnd .file (withoutBreaks behind)
  ⟨"file", some ⟨"", "", if path.onDrive then "" else host, none⟩, filePath path.segments, query,
    fragment⟩

/-- The URL of a file, from the text behind the two slashes. The host `localhost` is none, and a
drive is no host. Without a host, a slash at the front stands behind an empty segment, so that no
drive comes first. -/
def afterFileSlashes (cs : List Char) : Except Error Url := do
  let k := SchemeKind.file
  let hostText := withoutBreaks (cs.takeWhile (!k.endsAuthority ·))
  let after := cs.dropWhile (!k.endsAuthority ·)
  if isDrive hostText then
    let (path, behind) := readSegments k {} cs
    return fileUrl "" path behind
  let host ← if hostText.isEmpty then pure "" else specialHost? hostText
  if host.isEmpty || host == "localhost" then
    let (path, behind) := readSegments k {} after
    return fileUrl "" path behind
  let (path, behind) := readPath k after
  return fileUrl host path behind

/-- The URL of a file, from the text behind the colon, breaks included. -/
def readFile (cs : List Char) : Except Error Url :=
  let isSlash := SchemeKind.file.isSlash
  let first := cs.dropWhile isBreak
  let second := (first.drop 1).dropWhile isBreak
  if first.head?.any isSlash && second.head?.any isSlash then afterFileSlashes (second.drop 1)
  else
    let (path, behind) := readPath .file cs
    .ok (fileUrl "" path behind)

/-- A URL without authority, from the text behind the colon. -/
def withoutAuthority (scheme : String) (cs : List Char) : Url :=
  match cs with
  | '/' :: rest =>
    let (path, behind) := readSegments .other {} rest
    let (query, fragment) := readEnd .other behind
    ⟨scheme, none, pathText path.segments, query, fragment⟩
  | _ =>
    let inPath (c : Char) : Bool := c != '?' && c != '#'
    let (query, fragment) := readEnd .other (cs.dropWhile inPath)
    ⟨scheme, none, String.ofList (percentEncode reservedAlways (cs.takeWhile inPath)), query,
      fragment⟩

/-- A URL, from its scheme and the text behind the colon. -/
def withScheme (scheme : String) (cs : List Char) : Except Error Url :=
  match SchemeKind.of scheme with
  | .file => readFile cs
  | .special => afterSlashes scheme ((withoutBreaks cs).dropWhile (SchemeKind.special.isSlash ·))
  | .other =>
    match withoutBreaks cs with
    | '/' :: '/' :: rest => afterSlashes scheme rest
    | cs => .ok (withoutAuthority scheme cs)

/-- Reads a URL. -/
def parse (s : String) : Except Error Url :=
  match splitScheme (trimmed s) with
  | some (scheme, rest) => withScheme scheme rest
  | none => .error .relativeWithoutBase

/-- The segments of a path without the last. -/
def parentSegments (path : String) : List (List Char) :=
  ((path.toList.splitOn '/').drop 1).dropLast

/-- Reads a reference without scheme as seen from a URL with a well-known scheme other than
`file`. -/
def relativeTo (base : Url) (cs : List Char) : Except Error Url :=
  let k := SchemeKind.special
  match cs with
  | [] => .ok { base with fragment := none }
  | '#' :: _ => .ok { base with fragment := (readEnd k cs).2 }
  | '?' :: _ => .ok { base with query := (readEnd k cs).1, fragment := (readEnd k cs).2 }
  | c :: rest =>
    if k.isSlash c then
      match cs, rest with
      | '/' :: '/' :: authority, _ => afterSlashes base.scheme authority
      | _, d :: _ =>
        if k.isSlash d then afterSlashes base.scheme (cs.dropWhile (k.isSlash ·))
        else below [] rest
      | _, [] => below [] rest
    else below (parentSegments base.path).reverse cs
where
  /-- Replaces the path by given segments, the last of which comes first, and more. -/
  below (done : List (List Char)) (cs : List Char) : Except Error Url :=
    let (path, behind) := readSegments .special { done } cs
    let (query, fragment) := readEnd .special behind
    .ok { base with path := pathText path.segments, query, fragment }

/-- Reads a reference as seen from a URL with a well-known scheme other than `file`. The scheme of
that URL counts as none where fewer than two slashes follow it. -/
def join (base : Url) (s : String) : Except Error Url :=
  match splitScheme (trimmed s) with
  | some (scheme, rest) =>
    let plain := withoutBreaks rest
    if scheme == base.scheme && (plain.takeWhile SchemeKind.special.isSlash).length < 2 then
      relativeTo base plain
    else withScheme scheme rest
  | none => relativeTo base (withoutBreaks (trimmed s))

end LogPipeline.Url
