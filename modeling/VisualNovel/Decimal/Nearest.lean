/-!
# The nearest double

A quotient of natural numbers is rounded to the nearest number of 53 significant bits, ties to
even, in exact arithmetic. The result is the bit pattern of a non-negative double; magnitudes
beyond the greatest double give the pattern of infinity.
-/

namespace VisualNovel.Decimal

/-- Divides and rounds to the nearest whole number; a tie goes to the even neighbour. -/
def roundedQuotient (numerator denominator : Nat) : Nat :=
  let quotient := numerator / denominator
  let twice := 2 * (numerator % denominator)
  if twice > denominator || (twice == denominator && quotient % 2 == 1) then quotient + 1
  else quotient

/-- The quotient divided by a power of two, as numerator and denominator. -/
def scaled (numerator denominator : Nat) (exponent : Int) : Nat × Nat :=
  if exponent < 0 then (numerator * Nat.pow 2 (-exponent).toNat, denominator)
  else (numerator, denominator * Nat.pow 2 exponent.toNat)

/-- The bit pattern of positive infinity. -/
def infinityBits : Nat := 2047 * Nat.pow 2 52

/-- The bit pattern of the double nearest to a quotient. -/
def nearestBits (numerator denominator : Nat) : Nat :=
  if numerator = 0 then 0
  else
    let estimate : Int := numerator.log2 - denominator.log2
    let least : Int := max (estimate - 53) (-1074)
    let trial := scaled numerator denominator least
    let exponent := if trial.1 / trial.2 ≥ Nat.pow 2 53 then least + 1 else least
    let quotient := scaled numerator denominator exponent
    let bits := (exponent + 1074).toNat * Nat.pow 2 52 + roundedQuotient quotient.1 quotient.2
    min bits infinityBits

/-- The double nearest to `coefficient * 10 ^ exponent`. -/
def nearest (coefficient : Nat) (exponent : Int) : Float :=
  let bits :=
    if coefficient = 0 then 0
    else if exponent > 400 then infinityBits
    else if exponent < -(400 + (coefficient.log2 : Int)) then 0
    else if exponent < 0 then nearestBits coefficient (Nat.pow 10 (-exponent).toNat)
    else nearestBits (coefficient * Nat.pow 10 exponent.toNat) 1
  Float.ofBits (UInt64.ofNat bits)

end VisualNovel.Decimal
