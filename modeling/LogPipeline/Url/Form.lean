import LogPipeline.Url.Percent

/-!
# Forms

The pairs of names and values in a query. Pairs are separated by `&`, a name from its value by `=`,
and a space is written as `+`.
-/

namespace LogPipeline.Url

/-- The text that a name or value is the form of. -/
def formDecode (bytes : Bytes) : String :=
  Text.utf8Lossy (percentDecode (bytes.map fun b => if b == 0x2b then 0x20 else b))

/-- One pair; without `=` the value is empty. -/
def formPair (bytes : Bytes) : String × String :=
  (formDecode (bytes.takeWhile (· != 0x3d)), formDecode ((bytes.dropWhile (· != 0x3d)).drop 1))

/-- The pairs of a query in order. -/
def formPairs (query : String) : List (String × String) :=
  (((Text.utf8 query).splitOn 0x26).filter (!·.isEmpty)).map formPair

/-- Whether a character stands for itself in a form. -/
def plainInForm (c : Char) : Bool := c.isAlphanum || ['*', '-', '.', '_'].contains c

/-- A name or value as it is written in a form. -/
def formEncode (s : String) : String :=
  String.ofList (s.toList.flatMap fun c =>
    if c == ' ' then ['+'] else percentChar (fun c => !plainInForm c) c)

/-- A query of the given pairs. -/
def formQuery (pairs : List (String × String)) : String :=
  "&".intercalate (pairs.map fun p => formEncode p.1 ++ "=" ++ formEncode p.2)

end LogPipeline.Url
