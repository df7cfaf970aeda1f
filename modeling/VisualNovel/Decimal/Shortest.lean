/-!
# The shortest decimal of a double

The decimal of a finite positive double is the one with the fewest digits that rounds back to it,
and of those the nearest. A double is decoded into `mantissa * 2 ^ exponent`; the reals that round
to it form an interval, and the decimals of a given number of digits form a grid. Of each grid,
from the coarsest on, the two neighbours of the double are tried in exact arithmetic.
-/

namespace VisualNovel.Decimal

/-- A positive decimal `coefficient * 10 ^ exponent`. -/
structure Digits where
  /-- The significant digits, as a number. -/
  coefficient : Nat
  /-- The power of ten of the last digit. -/
  exponent : Int
  deriving DecidableEq

/-- A positive double with the interval of reals that round to it, over one denominator. -/
structure Interval where
  /-- The lower end. -/
  low : Nat
  /-- The double itself. -/
  value : Nat
  /-- The upper end. -/
  high : Nat
  /-- The common denominator of the three. -/
  denominator : Nat
  /-- Whether the ends themselves round to the double. -/
  closed : Bool

namespace Interval

/-- The interval of a positive finite bit pattern. -/
def ofBits (bits : Nat) : Interval :=
  let field : Nat := bits / Nat.pow 2 52
  let fraction := bits % Nat.pow 2 52
  let mantissa := if field = 0 then fraction else Nat.pow 2 52 + fraction
  let exponent : Int := (if field = 0 then -1074 else (field : Int) - 1075) - 2
  let below := if fraction = 0 && field > 1 then 1 else 2
  let scale := Nat.pow 2 exponent.toNat
  { low := (4 * mantissa - below) * scale
    value := 4 * mantissa * scale
    high := (4 * mantissa + 2) * scale
    denominator := Nat.pow 2 (-exponent).toNat
    closed := mantissa % 2 == 0 }

/-- An exponent of ten that is not below the one of the leading digit. -/
def leadingExponent (interval : Interval) : Int :=
  let bits : Int := interval.value.log2 - interval.denominator.log2 + 1
  Int.fdiv (bits * 30103) 100000 + 1

/-- The neighbour of the double on the grid of multiples of `10 ^ exponent` that lies in the
interval; of two such the nearer, and the even one when both are equally near. -/
def gridPoint? (interval : Interval) (exponent : Int) : Option Nat :=
  let unit := interval.denominator * Nat.pow 10 exponent.toNat
  let scale := Nat.pow 10 (-exponent).toNat
  let value := interval.value * scale
  let below := value / unit
  let holds (point : Nat) : Bool :=
    let position := point * unit
    if interval.closed then interval.low * scale ≤ position && position ≤ interval.high * scale
    else interval.low * scale < position && position < interval.high * scale
  let down := value - below * unit
  let up := (below + 1) * unit - value
  match holds below, holds (below + 1) with
  | true, true =>
    some (if down < up || (down == up && below % 2 == 0) then below else below + 1)
  | true, false => some below
  | false, true => some (below + 1)
  | false, false => none

end Interval

/-- Moves trailing zeros of the coefficient into the exponent. -/
def Digits.withoutTrailingZeros : Nat → Digits → Digits
  | 0, digits => digits
  | steps + 1, digits =>
    if digits.coefficient ≠ 0 && digits.coefficient % 10 == 0 then
      withoutTrailingZeros steps ⟨digits.coefficient / 10, digits.exponent + 1⟩
    else digits

/-- The shortest decimal that reads back as a positive finite bit pattern; twenty grids from the
leading digit down are finer than any double needs. -/
def shortest (bits : Nat) : Digits :=
  let interval := Interval.ofBits bits
  let leading := interval.leadingExponent
  let grids : List Int := (List.range 20).map fun step => leading - Int.ofNat step
  let found := grids.findSome? fun exponent =>
    (interval.gridPoint? exponent).map fun point => Digits.mk point exponent
  (found.getD ⟨0, 0⟩).withoutTrailingZeros 20

end VisualNovel.Decimal
