import LogPipeline.Number.Binary64

/-!
# Shortest decimals

The decimal `coefficient * 10 ^ exponent` with the fewest digits that reads back as a given binary
number; of two such decimals the nearer. Which of two equally near ones it is, the caller says.

The decimals that read back form an interval around the number, half way to its two neighbours,
with both ends in it if and only if its significand is even. With `scale` as the common
denominator, the interval and the number itself are naturals.
-/

namespace LogPipeline.Number

/-- A decimal number `coefficient * 10 ^ exponent`. -/
structure Decimal where
  coefficient : Nat
  exponent : Int
  deriving DecidableEq, Repr

/-- The decimals that read back as one binary number: the ends and the number itself as multiples
of `1 / scale`. -/
structure ReadBack where
  low : Nat
  value : Nat
  high : Nat
  scale : Nat
  closed : Bool

/-- The interval of a finite number that is not zero. Below a power of two the neighbour is only
half as far away, unless the power is the least. -/
def ReadBack.of (x : Binary64) : ReadBack :=
  let unit := Nat.pow 2 (x.power - 1075)
  let below := if x.significand == Binary64.hiddenBit && 1 < x.power then 1 else 2
  { low := (4 * x.significand - below) * unit
    value := 4 * x.significand * unit
    high := (4 * x.significand + 2) * unit
    scale := 4 * Nat.pow 2 (1075 - x.power)
    closed := x.significand % 2 == 0 }

/-- Whether `n * 10 ^ e` lies in the interval. -/
def ReadBack.holds (r : ReadBack) (n : Nat) (e : Int) : Bool :=
  let point := n * Nat.pow 10 e.toNat * r.scale
  let unit := Nat.pow 10 (-e).toNat
  if r.closed then r.low * unit ≤ point && point ≤ r.high * unit
  else r.low * unit < point && point < r.high * unit

/-- The multiple of `10 ^ e` in the interval that is nearest to the number, if there is one next to
it. -/
def ReadBack.onGrid (r : ReadBack) (tie : Binary64.Tie) (e : Int) : Option Decimal :=
  let num := r.value * Nat.pow 10 (-e).toNat
  let den := r.scale * Nat.pow 10 e.toNat
  let down := num / den
  let nearer := Binary64.roundQuotient tie num den
  let farther := if nearer == down then down + 1 else down
  if r.holds nearer e then some ⟨nearer, e⟩
  else if r.holds farther e then some ⟨farther, e⟩
  else none

/-- The exponent of the first digit of `value / scale`: the largest `e` with
`10 ^ e * scale ≤ value`, found from below a first estimate. -/
def ReadBack.leading (r : ReadBack) : Int :=
  let reaches (e : Int) : Bool := Nat.pow 10 e.toNat * r.scale ≤ r.value * Nat.pow 10 (-e).toNat
  let estimate : Int := ((r.value.log2 : Int) - (r.scale.log2 : Int)) * 1233 / 4096 - 1
  if reaches (estimate + 2) then estimate + 2
  else if reaches (estimate + 1) then estimate + 1
  else estimate

/-- Tries `digits`, `digits + 1`, … decimal digits, at most `more` times. -/
def ReadBack.search (r : ReadBack) (tie : Binary64.Tie) (leading : Int) (digits : Nat) :
    Nat → Option Decimal
  | 0 => none
  | more + 1 =>
    (r.onGrid tie (leading + 1 - digits)).orElse fun _ => r.search tie leading (digits + 1) more

/-- The same decimal without a zero as its last digit, if it had one. A number just below a power
of ten may be found as ten times its only digit. -/
def Decimal.dropZero (d : Decimal) : Decimal :=
  if d.coefficient % 10 == 0 then ⟨d.coefficient / 10, d.exponent + 1⟩ else d

/-- The shortest decimal of the magnitude of a finite number. Seventeen digits are always enough. -/
def shortest (tie : Binary64.Tie) (x : Binary64) : Decimal :=
  if x.isZero then ⟨0, 0⟩
  else
    let r := ReadBack.of x
    ((r.search tie r.leading 1 17).map Decimal.dropZero).getD ⟨0, 0⟩

/-- The digits of the coefficient, and where the point stands: after that many of them. -/
def Decimal.digits (d : Decimal) : List Char := Nat.toDigits 10 d.coefficient

def Decimal.pointAfter (d : Decimal) : Int := d.digits.length + d.exponent

/-- Positional notation with at least `places` digits after the point, and without a point if there
are none. -/
def Decimal.positional (places : Nat) (d : Decimal) : List Char :=
  let ds := d.digits
  let whole :=
    if d.pointAfter ≤ 0 then ['0']
    else ds.take d.pointAfter.toNat ++ List.replicate d.exponent.toNat '0'
  let fraction := List.replicate (-d.pointAfter).toNat '0' ++ ds.drop d.pointAfter.toNat
  let fraction := fraction ++ List.replicate (places - fraction.length) '0'
  if fraction.isEmpty then whole else whole ++ '.' :: fraction

/-- Scientific notation: one digit, the others after a point, and the exponent with its sign. -/
def Decimal.scientific (d : Decimal) : List Char :=
  let power := d.pointAfter - 1
  let exponent := (if power < 0 then '-' else '+') :: Nat.toDigits 10 power.natAbs
  match d.digits with
  | [] => []
  | [c] => c :: 'e' :: exponent
  | c :: more => c :: '.' :: more ++ 'e' :: exponent

end LogPipeline.Number
