import LogPipeline.Level
import LogPipeline.Text.Utf8

/-!
# Colours

A line is coloured at the first place of a level tag. The tags are tried from the most severe level
down, and the first one that occurs anywhere in the line is the one that is coloured.
-/

namespace LogPipeline.Color

/-- The octets that switch to the colour of a level. -/
def code : Level → Bytes
  | .error => Text.utf8 "\x1b[31m"
  | .warn => Text.utf8 "\x1b[33m"
  | .info => Text.utf8 "\x1b[32m"
  | .debug => Text.utf8 "\x1b[90m"

/-- The octets that switch back. -/
def reset : Bytes := Text.utf8 "\x1b[0m"

/-- The text that names a level in a line. -/
def tag (level : Level) : Bytes := Text.utf8 ("level=" ++ level.tag)

/-- The octets before and after the first place of `part`. -/
def splitAt? (part : Bytes) : Bytes → Option (Bytes × Bytes)
  | [] => if part.isEmpty then some ([], []) else none
  | b :: rest =>
    if part.isPrefixOf (b :: rest) then some ([], (b :: rest).drop part.length)
    else (splitAt? part rest).map fun (before, after) => (b :: before, after)

/-- The levels in the order in which their tags are looked for. -/
def order : List Level := [.error, .warn, .info, .debug]

/-- The line with its level tag coloured, if it has one. -/
def paint? (line : Bytes) : Option Bytes :=
  order.findSome? fun level =>
    (splitAt? (tag level) line).map fun (before, after) =>
      before ++ code level ++ tag level ++ reset ++ after

end LogPipeline.Color
