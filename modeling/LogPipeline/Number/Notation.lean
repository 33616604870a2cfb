import LogPipeline.Number.Shortest

/-!
# The two notations of a floating point number

`plain` is the notation of text lines: shortest digits, always positional, a whole number without a
point. `json` is that of JSON: shortest digits, a whole number with `.0`, and scientific notation
from `1e+16` on and below `1e-5`. Of two shortest decimals that are equally near, `plain` has the
greater magnitude and `json` the even last digit.
-/

namespace LogPipeline.Number

/-- Puts the sign in front. -/
def withSign (isNegative : Bool) (text : List Char) : String :=
  String.ofList (if isNegative then '-' :: text else text)

/-- The notation of text lines; the zeros and infinities have signs. -/
def plain (x : Binary64) : String :=
  if x.isNaN then "NaN"
  else withSign x.negative
    (if x.isInfinite then ['i', 'n', 'f'] else (shortest .up x).positional 0)

/-- The notation of JSON, for a finite number. -/
def json (x : Binary64) : String :=
  let d := shortest .toEven x
  let positional := -5 < d.pointAfter && d.pointAfter ≤ 16
  withSign x.negative (if positional then d.positional 1 else d.scientific)

end LogPipeline.Number
