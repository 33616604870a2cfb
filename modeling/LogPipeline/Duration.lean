/-!
# Durations

A length of time in nanoseconds and its text in the largest unit that keeps the whole part from
being zero, with no more digits than it needs.
-/

namespace LogPipeline

/-- A length of time. -/
structure Duration where
  nanoseconds : Nat
  deriving DecidableEq, Repr

namespace Duration

/-- The digits of `part`, written with `width` places, without the zeros at their end. -/
def fractionDigits (part width : Nat) : List Char :=
  let ds := Nat.toDigits 10 part
  ((List.replicate (width - ds.length) '0' ++ ds).reverse.dropWhile (· == '0')).reverse

/-- `n / 10 ^ width` followed by the unit. -/
def inUnit (n width : Nat) (unit : String) : String :=
  let fraction := fractionDigits (n % Nat.pow 10 width) width
  toString (n / Nat.pow 10 width) ++
    (if fraction.isEmpty then "" else String.ofList ('.' :: fraction)) ++ unit

/-- The text of a duration, in `s`, `ms`, `µs` or `ns`. -/
def text (d : Duration) : String :=
  if 1000000000 ≤ d.nanoseconds then inUnit d.nanoseconds 9 "s"
  else if 1000000 ≤ d.nanoseconds then inUnit d.nanoseconds 6 "ms"
  else if 1000 ≤ d.nanoseconds then inUnit d.nanoseconds 3 "µs"
  else inUnit d.nanoseconds 0 "ns"

end Duration

end LogPipeline
