/-!
# Errors of input and output

Why opening, writing, renaming or reading failed, and the text that says so.
-/

namespace LogPipeline

/-- What the file system refuses. -/
inductive OsError where
  | notFound
  | busy
  | alreadyExists
  | notDirectory
  | isDirectory
  | invalidArgument
  | nameTooLong
  | notEmpty
  deriving DecidableEq, Repr

namespace OsError

/-- The number of the error. -/
def code : OsError → Nat
  | notFound => 2
  | busy => 16
  | alreadyExists => 17
  | notDirectory => 20
  | isDirectory => 21
  | invalidArgument => 22
  | nameTooLong => 36
  | notEmpty => 39

def description : OsError → String
  | notFound => "No such file or directory"
  | busy => "Device or resource busy"
  | alreadyExists => "File exists"
  | notDirectory => "Not a directory"
  | isDirectory => "Is a directory"
  | invalidArgument => "Invalid argument"
  | nameTooLong => "File name too long"
  | notEmpty => "Directory not empty"

def message (e : OsError) : String :=
  e.description ++ " (os error " ++ toString e.code ++ ")"

end OsError

/-- Why an operation on a file or a sink failed. -/
inductive IoError where
  | os (e : OsError)
  /-- The path holds a NUL character. -/
  | nulInPath
  /-- A file read as text does not hold UTF-8. -/
  | notUtf8
  /-- The sink was closed before. -/
  | closed
  /-- A device gave an error of its own. -/
  | device (text : String)
  deriving DecidableEq, Repr

def IoError.message : IoError → String
  | .os e => e.message
  | .nulInPath => "file name contained an unexpected NUL byte"
  | .notUtf8 => "stream did not contain valid UTF-8"
  | .closed => "sink is closed"
  | .device text => text

end LogPipeline
