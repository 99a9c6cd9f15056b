/-!
# Shortest decimals

Many decimals read back as the same binary floating-point number. The
shortest of them, and among those the one nearest to the number, is the one
shown. All arithmetic is exact: a number is `m * 2 ^ e` for naturals `m` and
`e` shifted by a bias, and the decimals that read back as it are those
between the midpoints to its two neighbours.
-/

namespace ServoLink

/-- A positive binary floating-point number `mantissa * 2 ^ exponent`. -/
structure Binary where
  mantissa : Nat
  exponent : Int
  deriving DecidableEq

/-- A decimal `digits * 10 ^ exponent`. -/
structure Decimal where
  digits : Nat
  exponent : Int
  deriving DecidableEq, Inhabited

/-- `base ^ e` as a fraction: numerator and denominator. -/
def power (base : Nat) (e : Int) : Nat × Nat :=
  (base.pow e.toNat, base.pow (-e).toNat)

/-- Scale a double-precision mantissa up to its full 53 bits. -/
def Binary.normalize (b : Binary) : Binary :=
  let shift := 53 - (b.mantissa.log2 + 1)
  { mantissa := b.mantissa <<< shift, exponent := b.exponent - shift }

/-- The decimals that read back as a number, scaled to a grid: `value` lies
in the interval from `low` to `high`, all three in units of `1 / unit`. The
ends belong to it when `closed` holds. -/
structure Interval where
  low : Nat
  value : Nat
  high : Nat
  unit : Nat
  closed : Bool

/-- The interval of a double-precision number, in units of `10 ^ grid`. A
power of two lies nearer to its lower neighbour than to its upper one. -/
def Binary.interval (b : Binary) (grid : Int) : Interval :=
  let (twoNum, twoDen) := power 2 b.exponent
  let (tenNum, tenDen) := power 10 grid
  let scale := twoNum * tenDen
  let lowGap := if b.mantissa = 0x10000000000000 then 1 else 2
  { low := (4 * b.mantissa - lowGap) * scale
    value := 4 * b.mantissa * scale
    high := (4 * b.mantissa + 2) * scale
    unit := 4 * twoDen * tenNum
    closed := b.mantissa % 2 == 0 }

/-- Whether a point of the grid lies in the interval. -/
def Interval.contains (i : Interval) (point : Nat) : Bool :=
  if i.closed then i.low ≤ point * i.unit && point * i.unit ≤ i.high
  else i.low < point * i.unit && point * i.unit < i.high

/-- The point of the grid that is nearest to the value, if it or the other
neighbour of the value lies in the interval. Of two equally near the even one
is taken. -/
def Interval.nearest (i : Interval) : Option Nat :=
  let below := i.value / i.unit
  let above := below + 1
  let belowIn := i.contains below
  let aboveIn := i.contains above
  if belowIn && aboveIn then
    let toBelow := i.value - below * i.unit
    let toAbove := above * i.unit - i.value
    if toBelow < toAbove || (toBelow == toAbove && below % 2 == 0) then some below
    else some above
  else if belowIn then some below
  else if aboveIn then some above
  else none

/-- The place of the leading decimal digit of a number: `10 ^ place` is at
most the number and `10 ^ (place + 1)` is more. The first guess is off by at
most one. -/
def Binary.place (b : Binary) : Int :=
  let top : Int := (b.mantissa.log2 : Int) + b.exponent
  let guess := top * 30103 / 100000
  let atLeast (p : Int) : Bool :=
    let (twoNum, twoDen) := power 2 b.exponent
    let (tenNum, tenDen) := power 10 p
    tenNum * twoDen ≤ b.mantissa * twoNum * tenDen
  if atLeast (guess + 1) then guess + 1
  else if atLeast guess then guess
  else guess - 1

/-- The first of the grids for `count` digits, `count + 1` digits and so on,
at most `fuel` of them, that has a point in the interval. -/
def Binary.search (b : Binary) (place : Int) (count : Nat) : (fuel : Nat) → Decimal
  | 0 => { digits := b.mantissa, exponent := 0 }
  | fuel + 1 =>
    let grid := place - count + 1
    match (b.interval grid).nearest with
    | some digits => { digits, exponent := grid }
    | none => b.search place (count + 1) fuel

/-- The shortest decimal that reads back as a double-precision number.
Seventeen digits always suffice. -/
def Binary.shortest (b : Binary) : Decimal :=
  let b := b.normalize
  b.search b.place 1 17

/-- A decimal without zeros at its end. -/
def Decimal.strip (d : Decimal) : (fuel : Nat) → Decimal
  | 0 => d
  | fuel + 1 =>
    if d.digits ≠ 0 ∧ d.digits % 10 = 0 then
      Decimal.strip { digits := d.digits / 10, exponent := d.exponent + 1 } fuel
    else d

end ServoLink
