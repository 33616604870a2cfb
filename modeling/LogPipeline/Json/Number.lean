import LogPipeline.Json.Basic

/-!
# Numbers in JSON text

A number without point and exponent that fits into 64 bits is an integer. Every other number is a
floating point number: as many leading digits as fit into 64 bits are kept as a natural number, the
others only count towards the power of ten, and the natural number is multiplied or divided by the
power. The result may differ in its last bit from the number nearest to the text.
-/

namespace LogPipeline.Json

/-- A number as it is written; `whole` has no leading zero unless it is a lone zero. -/
structure NumberText where
  negative : Bool
  whole : List Nat
  fraction : Option (List Nat)
  /-- Whether the exponent is negative, and its digits. -/
  exponent : Option (Bool × List Nat)
  deriving Repr

namespace NumberText

/-- Whether a digit can be appended to a number of 64 bits. -/
def hasRoom (n digit : Nat) : Bool := n * 10 + digit < UInt64.size

/-- Leading digits as a number, and the power of ten that it is to be multiplied with. -/
structure Scaled where
  significand : Nat
  exponent : Int

/-- Reads the digits before the point; from the first one without room on they only count. -/
def readWhole : Nat → List Nat → Scaled
  | n, [] => ⟨n, 0⟩
  | n, d :: rest => if hasRoom n d then readWhole (n * 10 + d) rest else ⟨n, rest.length + 1⟩

/-- Reads the digits after the point; from the first one without room on they are left out. -/
def readFraction : Scaled → List Nat → Scaled
  | s, [] => s
  | s, d :: rest =>
    if hasRoom s.significand d then readFraction ⟨s.significand * 10 + d, s.exponent - 1⟩ rest
    else s

/-- The value of decimal digits. -/
def digitsValue (digits : List Nat) : Nat := digits.foldl (fun n d => n * 10 + d) 0

/-- The largest power of ten by which a number is scaled in one step. -/
def largestPower : Nat := 308

/-- The number nearest to a power of ten. -/
def powerOfTen (k : Nat) : Binary64 := Binary64.ofNat (Nat.pow 10 k)

/-- Divides by `10 ^ k`, in steps of at most `10 ^ 308`, until nothing is left of the number. -/
def scaleDown (x : Binary64) (k : Nat) : Binary64 :=
  if x.isZero then x
  else if k ≤ largestPower then x.divMagnitude (powerOfTen k)
  else scaleDown (x.divMagnitude (powerOfTen largestPower)) (k - largestPower)
termination_by k
decreasing_by rename_i h; simp only [largestPower] at h ⊢; omega

/-- The number `significand * 10 ^ exponent`, if it is finite. -/
def Scaled.toBinary64 (s : Scaled) : Option Binary64 :=
  let x := Binary64.ofNat s.significand
  if s.exponent < 0 then some (scaleDown x (-s.exponent).toNat)
  else if x.isZero then some x
  else if largestPower < s.exponent then none
  else
    let y := x.mulMagnitude (powerOfTen s.exponent.toNat)
    if y.isFinite then some y else none

/-- The exponent as a number. -/
def exponentValue (t : NumberText) : Int :=
  match t.exponent with
  | none => 0
  | some (true, digits) => -(digitsValue digits : Int)
  | some (false, digits) => digitsValue digits

/-- The floating point number of a text, if it is not too large for one. -/
def toBinary64 (t : NumberText) : Option Binary64 :=
  let s := readFraction (readWhole 0 t.whole) (t.fraction.getD [])
  (Scaled.toBinary64 ⟨s.significand, s.exponent + t.exponentValue⟩).map fun x =>
    if t.negative then x.neg else x

/-- The natural number of a text that has neither sign nor point nor exponent. -/
def toWord (t : NumberText) : Option Nat :=
  if t.negative || t.fraction.isSome || t.exponent.isSome then none
  else if digitsValue t.whole < UInt64.size then some (digitsValue t.whole)
  else none

/-- The value of a number; `-0` is a floating point number. -/
def value? (t : NumberText) : Option Json :=
  let n := digitsValue t.whole
  if t.fraction.isNone && t.exponent.isNone && !t.negative && n < UInt64.size then some (.int n)
  else if t.fraction.isNone && t.exponent.isNone && t.negative && 0 < n && 2 * n ≤ UInt64.size then
    some (.int (-n))
  else t.toBinary64.map .float

end NumberText

end LogPipeline.Json
