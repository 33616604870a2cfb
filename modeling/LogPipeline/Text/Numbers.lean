import LogPipeline.Text.Ranges

/-!
# Tables of code points

Large tables stand in texts: entries with blanks between, each of them lists of hexadecimal numbers
joined by `-`, with `:` between the lists.
-/

namespace LogPipeline.Text

/-- The value of a lower-case hexadecimal number. -/
def numberOf (s : String) : Nat :=
  s.toList.foldl (fun n c => n * 16 + (if c.isDigit then c.toNat - 48 else c.toNat - 87)) 0

/-- The entries of a table. -/
def entriesOf (table : String) : List (List (List Nat)) :=
  let lines := table.map fun c => if c == '\n' then ' ' else c
  ((lines.splitOn " ").filter (!·.isEmpty)).map fun entry =>
    (entry.splitOn ":").map fun numbers => (numbers.splitOn "-").map numberOf

/-- The ranges of a table. -/
def rangesOf (table : String) : Ranges :=
  (entriesOf table).filterMap fun
    | [[a]] => some (a, a)
    | [[a, b]] => some (a, b)
    | _ => none

end LogPipeline.Text
