/-!
# Paths

A path is a text; its components are separated by one or more slashes. A component `.` counts only
at the very front, so `a/./b` has the components `a` and `b`, and `./a` has `.` and `a`.
-/

namespace LogPipeline.Path

/-- A path split into what stands before its components (a root, a leading `.`, or nothing) and the
text with the components. -/
def anchored : List Char → List Char × List Char
  | '/' :: body => (['/'], body)
  | ['.'] => (['.'], [])
  | '.' :: '/' :: body => (['.'], '/' :: body)
  | body => ([], body)

/-- Cuts reversed text after its first component: the component, reversed, and what stands behind
the slash. -/
def cutLast (reversed : List Char) : List Char × Option (List Char) :=
  match reversed.dropWhile (· != '/') with
  | [] => (reversed, none)
  | _ :: rest => (reversed.takeWhile (· != '/'), some rest)

/-- Drops empty components and `.` from the end of a text, which is given reversed. -/
def trimEnd : List Char → List Char
  | [] => []
  | '/' :: rest => trimEnd rest
  | ['.'] => []
  | '.' :: '/' :: rest => trimEnd rest
  | reversed => reversed

/-- The last component of a text that ends in one, and the text before it; both reversed. -/
def splitLast (reversed : List Char) : List Char × List Char :=
  let (name, rest) := cutLast reversed
  (name, trimEnd (rest.getD []))

/-- The path without its last component; none for an empty path and for a root. -/
def parent? (path : String) : Option String :=
  let (anchor, body) := anchored path.toList
  match trimEnd body.reverse with
  | [] => if anchor == ['.'] then some "" else none
  | reversed => some (String.ofList (anchor ++ (splitLast reversed).2.reverse))

/-- The last component, unless it is `.` or `..`. -/
def fileName? (path : String) : Option String :=
  match trimEnd (anchored path.toList).2.reverse with
  | [] => none
  | reversed =>
    let name := String.ofList (splitLast reversed).1.reverse
    if name == ".." then none else some name

/-- The path of an entry of a directory. -/
def join (dir name : String) : String :=
  if dir.isEmpty || dir.toList.getLast? == some '/' then dir ++ name else dir ++ "/" ++ name

end LogPipeline.Path
