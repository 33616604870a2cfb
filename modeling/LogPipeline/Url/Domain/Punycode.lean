/-!
# Punycode

A label in ASCII: first its ASCII characters, then the others as a series of numbers. Each number
tells how many steps of a count through all characters and places pass until the next character is
inserted. Numbers are written in base 36 with digits whose weights depend on the numbers before.
-/

namespace LogPipeline.Url.Domain.Punycode

def base : Nat := 36
def leastThreshold : Nat := 1
def greatestThreshold : Nat := 26
def initialBias : Nat := 72
def initialPoint : Nat := 128

/-- Longer labels are refused. -/
def encodeLimit : Nat := 1000
def decodeLimit : Nat := 2000

/-- Divides by 35 until at most 455 is left; gives how often times 36, and the rest. -/
def scaled : Nat → Nat → Nat × Nat
  | 0, delta => (0, delta)
  | steps + 1, delta =>
    if delta ≤ (base - leastThreshold) * greatestThreshold / 2 then (0, delta)
    else
      let r := scaled steps (delta / (base - leastThreshold))
      (r.1 + base, r.2)

/-- The bias after a number: `delta` was the number, `points` is how many characters there are. -/
def adapt (delta points : Nat) (isFirst : Bool) : Nat :=
  let delta := if isFirst then delta / 700 else delta / 2
  let delta := delta + delta / points
  let (k, delta) := scaled delta delta
  k + (base - leastThreshold + 1) * delta / (delta + 38)

/-- The threshold of the digit at place `k`. -/
def threshold (k bias : Nat) : Nat :=
  min greatestThreshold (max leastThreshold (k - bias))

/-- The digit with a value. -/
def digitOf (n : Nat) : Char := Char.ofNat (if n < 26 then 97 + n else 22 + n)

/-- The value of a digit. -/
def valueOf? (c : Char) : Option Nat :=
  if c.isDigit then some (c.toNat - 22)
  else if 'a' ≤ c && c ≤ 'z' then some (c.toNat - 97)
  else if 'A' ≤ c && c ≤ 'Z' then some (c.toNat - 65)
  else none

/-- The digits of a number, from the place `k` on. Each digit makes the number smaller. -/
def numberDigits (bias : Nat) : Nat → Nat → Nat → List Char
  | 0, _, _ => []
  | steps + 1, k, n =>
    let t := threshold k bias
    if n < t then [digitOf n]
    else digitOf (t + (n - t) % (base - t)) ::
      numberDigits bias steps (k + base) ((n - t) / (base - t))

/-- The state of writing a label. -/
structure Writing where
  delta : Nat
  bias : Nat
  /-- How many characters are written. -/
  count : Nat
  isFirst : Bool
  /-- What is written, in reverse. -/
  output : List Char

/-- Passes one character of the label on the way through all places of the code point `point`. -/
def pass (point : Nat) (s : Writing) (c : Char) : Writing :=
  if c.toNat < point then { s with delta := s.delta + 1 }
  else if c.toNat = point then
    { delta := 0
      bias := adapt s.delta (s.count + 1) s.isFirst
      count := s.count + 1
      isFirst := false
      output := (numberDigits s.bias (s.delta + 1) base s.delta).reverse ++ s.output }
  else s

/-- The code points from `point` on in the label, in ascending order and each once. -/
def pointsFrom (point : Nat) (label : List Char) : List Nat :=
  ((label.map Char.toNat).filter (point ≤ ·)).mergeSort.eraseDups

/-- Writes all code points that are not ASCII. -/
def writePoints (label : List Char) : Nat → Writing → List Nat → Writing
  | _, s, [] => s
  | next, s, point :: rest =>
    let s := { s with delta := s.delta + (point - next) * (s.count + 1) }
    let s := label.foldl (pass point) s
    writePoints label (point + 1) { s with delta := s.delta + 1 } rest

/-- A label in ASCII. -/
def encode? (label : List Char) : Option (List Char) :=
  if encodeLimit < label.length then none
  else
    let ascii := label.filter (·.toNat < initialPoint)
    let front := if ascii.isEmpty then [] else ascii ++ ['-']
    let s : Writing := ⟨0, initialBias, ascii.length, true, []⟩
    let s := writePoints label initialPoint s (pointsFrom initialPoint label)
    some (front ++ s.output.reverse)

/-- Reads a number: its digits from the place `k` on with their weight, and the rest. -/
def readNumber (bias : Nat) : Nat → Nat → Nat → List Char → Option (Nat × List Char)
  | _, _, _, [] => none
  | k, weight, n, c :: rest => do
    let d ← valueOf? c
    let n := n + d * weight
    if UInt32.size ≤ n then none
    let t := threshold k bias
    if d < t then return (n, rest)
    readNumber bias (k + base) (weight * (base - t)) n rest

/-- The state of reading a label. -/
structure Reading where
  /-- The code point and the place up to which the count has come. -/
  point : Nat
  place : Nat
  bias : Nat
  isFirst : Bool
  label : List Char

/-- Inserts the character that a number stands for. -/
def insert? (s : Reading) (delta : Nat) : Option Reading :=
  let count := s.label.length + 1
  let total := s.place + delta
  let point := s.point + total / count
  let place := total % count
  if 0x10ffff < point || (0xd800 ≤ point && point < 0xe000) then none
  else some
    { point
      place := place + 1
      bias := adapt delta count s.isFirst
      isFirst := false
      label := s.label.take place ++ Char.ofNat point :: s.label.drop place }

/-- Inserts the characters that numbers stand for, at most `steps` of them. -/
def readPoints : Nat → Reading → List Char → Option (List Char)
  | _, s, [] => some s.label
  | 0, _, _ :: _ => none
  | steps + 1, s, cs => do
    let (delta, rest) ← readNumber s.bias base 1 0 cs
    readPoints steps (← insert? s delta) rest

/-- The label that is written in ASCII. The last hyphen, unless it comes first, stands between the
ASCII characters and the numbers. -/
def decode? (cs : List Char) : Option (List Char) :=
  if decodeLimit < cs.length || cs.any (0x80 ≤ ·.toNat) then none
  else
    let (ascii, numbers) := match cs.reverse.dropWhile (· != '-') with
      | [] | [_] => ([], cs)
      | _ :: ascii => (ascii.reverse, (cs.reverse.takeWhile (· != '-')).reverse)
    readPoints (numbers.length + 1) ⟨initialPoint, 0, initialBias, true, ascii⟩ numbers

end LogPipeline.Url.Domain.Punycode
