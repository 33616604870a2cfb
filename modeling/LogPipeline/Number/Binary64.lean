/-!
# Binary floating point numbers of 64 bits

A number is its 64 bits: sign, 11 bits of exponent, 52 bits of fraction. The magnitude of a finite
number is `significand * 2 ^ (power - 1075)`, and `nearest` finds the number closest to a
quotient of naturals, a tie going to the even neighbour. All arithmetic here is exact arithmetic
on naturals followed by one `nearest`.
-/

namespace LogPipeline

/-- A binary floating point number, given by its bits. -/
structure Binary64 where
  bits : UInt64
  deriving DecidableEq, Repr

namespace Binary64

/-- The weight of the bit of the significand that is not stored. -/
def hiddenBit : Nat := 0x10000000000000

/-- The weight of the sign bit. -/
def signBit : Nat := 0x8000000000000000

/-- Whether the sign bit is set. -/
def negative (x : Binary64) : Bool := signBit ≤ x.bits.toNat

/-- The bits without the sign. -/
def magnitudeBits (x : Binary64) : Nat := x.bits.toNat % signBit

/-- The exponent bits of an infinity, which those of every number that is none lie below. -/
def infinityBits : Nat := 0x7ff * hiddenBit

def isNaN (x : Binary64) : Bool := infinityBits < x.magnitudeBits

def isInfinite (x : Binary64) : Bool := x.magnitudeBits == infinityBits

def isFinite (x : Binary64) : Bool := x.magnitudeBits < infinityBits

def isZero (x : Binary64) : Bool := x.magnitudeBits == 0

/-- The exponent of the magnitude, raised by 1075 so that it is a natural number. -/
def power (x : Binary64) : Nat := max 1 (x.magnitudeBits / hiddenBit)

/-- The significand of the magnitude, with the bit that is not stored. -/
def significand (x : Binary64) : Nat :=
  if x.magnitudeBits < hiddenBit then x.magnitudeBits
  else hiddenBit + x.magnitudeBits % hiddenBit

/-- The magnitude as a quotient. -/
def numerator (x : Binary64) : Nat := x.significand * Nat.pow 2 (x.power - 1075)

def denominator (x : Binary64) : Nat := Nat.pow 2 (1075 - x.power)

/-- Equality of values: the two zeros are equal, and a number that is none equals nothing. -/
def same (x y : Binary64) : Bool :=
  !x.isNaN && !y.isNaN && (x.bits == y.bits || (x.isZero && y.isZero))

/-- The number with the given sign and magnitude bits. -/
def ofMagnitude (isNegative : Bool) (magnitude : Nat) : Binary64 :=
  ⟨UInt64.ofNat (magnitude + if isNegative then signBit else 0)⟩

/-- Where a number goes that lies half way between two. -/
inductive Tie where
  | toEven
  | up
  deriving DecidableEq, Repr

/-- `num / den` to the nearest natural. -/
def roundQuotient (tie : Tie) (num den : Nat) : Nat :=
  let q := num / den
  let r := num % den
  if den < 2 * r || (2 * r == den && (tie == .up || q % 2 == 1)) then q + 1 else q

/-- The magnitude bits of the number nearest to `num / den`. The power is chosen so that the
rounded quotient has 53 bits, or fewer at the least power; rounding up to 54 bits carries into the
exponent bits by itself. -/
def nearestBits (num den : Nat) : Nat :=
  if num == 0 then 0
  else
    let guess := (1075 + num.log2 : Nat) - (den.log2 + 52)
    -- the quotient lies in `[2 ^ 51, 2 ^ 54)` at `guess`; one more is right if `2 ^ 53` is reached
    let scaled (p : Nat) : Nat × Nat := (num * Nat.pow 2 (1075 - p), den * Nat.pow 2 (p - 1075))
    let low := max 1 (guess - 1)
    let fits (p : Nat) : Bool := (scaled p).1 / (scaled p).2 < 2 * hiddenBit
    let p := if fits low then low else if fits (low + 1) then low + 1 else low + 2
    let bits := (p - 1) * hiddenBit + roundQuotient .toEven (scaled p).1 (scaled p).2
    min bits infinityBits

/-- The number nearest to the quotient of two naturals. -/
def nearest (isNegative : Bool) (num den : Nat) : Binary64 :=
  ofMagnitude isNegative (nearestBits num den)

/-- The number nearest to a natural. -/
def ofNat (n : Nat) : Binary64 := nearest false n 1

/-- The product of two magnitudes. -/
def mulMagnitude (x y : Binary64) : Binary64 :=
  nearest false (x.numerator * y.numerator) (x.denominator * y.denominator)

/-- The quotient of two magnitudes, the second not zero. -/
def divMagnitude (x y : Binary64) : Binary64 :=
  nearest false (x.numerator * y.denominator) (x.denominator * y.numerator)

/-- The number with the opposite sign. -/
def neg (x : Binary64) : Binary64 := ofMagnitude (!x.negative) x.magnitudeBits

/-- A number of 32 bits (8 of exponent, 23 of fraction) in the wider format; the payload of one that
is none moves to the top of the fraction and is made quiet. -/
def ofBinary32 (bits : UInt32) : Binary64 :=
  let n := bits.toNat
  let isNegative := 0x80000000 ≤ n
  let exponent := n / 0x800000 % 0x100
  let fraction := n % 0x800000
  if exponent == 255 then
    ofMagnitude isNegative
      (infinityBits + if fraction == 0 then 0 else (fraction ||| 0x400000) * 0x20000000)
  else if exponent == 0 then nearest isNegative fraction (Nat.pow 2 149)
  else nearest isNegative ((0x800000 + fraction) * Nat.pow 2 (exponent - 150))
    (Nat.pow 2 (150 - exponent))

end Binary64

end LogPipeline
