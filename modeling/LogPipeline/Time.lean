/-!
# Points in time

A point in time in seconds since 1970 and nanoseconds, and its calendar texts in UTC. From 10⁹ on
the nanoseconds lie in a leap second, which is written as second 60 of its minute.
-/

namespace LogPipeline

/-- A point in time; `nanos` is less than 2 · 10⁹. -/
structure Timestamp where
  seconds : Int
  nanos : Nat
  deriving DecidableEq, Repr, Inhabited

/-- A day of the proleptic Gregorian calendar. -/
structure Date where
  year : Int
  month : Nat
  day : Nat
  deriving DecidableEq, Repr

/-- The date that is `days` days after the first of January 1970. Years are counted from the first
of March, so that the leap day is the last of its year, in eras of 400 years of 146097 days. -/
def Date.ofDays (days : Int) : Date :=
  let shifted := days + 719468
  let era := shifted.fdiv 146097
  let dayOfEra := (shifted.fmod 146097).toNat
  let yearOfEra :=
    (dayOfEra - dayOfEra / 1460 + dayOfEra / 36524 - dayOfEra / 146096) / 365
  let dayOfYear := dayOfEra - (365 * yearOfEra + yearOfEra / 4 - yearOfEra / 100)
  let marchMonth := (5 * dayOfYear + 2) / 153
  let month := if marchMonth < 10 then marchMonth + 3 else marchMonth - 9
  { year := yearOfEra + era * 400 + if month ≤ 2 then 1 else 0
    month
    day := dayOfYear - (153 * marchMonth + 2) / 5 + 1 }

/-- A natural number with at least `width` digits. -/
def padded (width n : Nat) : String :=
  let digits := Nat.toDigits 10 n
  String.ofList (List.replicate (width - digits.length) '0' ++ digits)

/-- A year with at least four digits, and with its sign outside the years 0 to 9999. -/
def yearText (year : Int) : String :=
  if 0 ≤ year ∧ year ≤ 9999 then padded 4 year.toNat
  else (if year < 0 then "-" else "+") ++ padded 4 year.natAbs

namespace Timestamp

/-- The nanoseconds in a second. -/
def nanosPerSecond : Nat := 1000000000

/-- The point in time that is `ns` nanoseconds after the start of 1970. -/
def ofNanoseconds (ns : Int) : Timestamp :=
  ⟨ns.fdiv nanosPerSecond, (ns.fmod nanosPerSecond).toNat⟩

def date (t : Timestamp) : Date := .ofDays (t.seconds.fdiv 86400)

def secondOfDay (t : Timestamp) : Nat := (t.seconds.fmod 86400).toNat

def hour (t : Timestamp) : Nat := t.secondOfDay / 3600

def minute (t : Timestamp) : Nat := t.secondOfDay / 60 % 60

def second (t : Timestamp) : Nat := t.secondOfDay % 60 + t.nanos / nanosPerSecond

/-- The date and time with milliseconds, as `2024-01-01T00:00:00.000Z`. -/
def text (t : Timestamp) : String :=
  yearText t.date.year ++ "-" ++ padded 2 t.date.month ++ "-" ++ padded 2 t.date.day ++ "T" ++
  padded 2 t.hour ++ ":" ++ padded 2 t.minute ++ ":" ++ padded 2 t.second ++ "." ++
  padded 3 (t.nanos % nanosPerSecond / 1000000) ++ "Z"

/-- The date and time to the second without separators, as `20240101T000000`. -/
def stamp (t : Timestamp) : String :=
  yearText t.date.year ++ padded 2 t.date.month ++ padded 2 t.date.day ++ "T" ++
  padded 2 t.hour ++ padded 2 t.minute ++ padded 2 t.second

end Timestamp

end LogPipeline
