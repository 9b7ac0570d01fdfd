import InstanceDirectory.Binary64

/-!
# Shortest decimal digits

The shortest decimal of a finite number is the one with the fewest digits that
reads back as that number; among those it is the nearest one.  Candidates with a
given number of digits are the two neighbours of the number on that decimal grid.
-/

namespace InstanceDirectory

-- A power is the core library's here, whatever other library is in scope: a literal
-- exponent needs its type for that.
attribute [local instance (high)] instPowNat

/-- The decimal `coefficient * 10 ^ exponent`. -/
structure Decimal where
  /-- All digits, as one number. -/
  coefficient : Nat
  /-- The power of ten of the last digit. -/
  exponent : Int
deriving DecidableEq, Inhabited

namespace Decimal

/-- The reals that round to a number, over a common denominator. -/
structure Interval where
  /-- Four times the number, in quarters of its last place. -/
  middle : Nat
  /-- Lower end. -/
  low : Nat
  /-- Upper end. -/
  high : Nat
  /-- Whether the ends round to the number as well. -/
  closed : Bool
  /-- The numerator of a quarter of the last place. -/
  unitNumerator : Nat
  /-- The denominator of a quarter of the last place. -/
  unitDenominator : Nat

/--
The interval of a finite nonzero number: half a place to each side, except that
the place below a power of two is half as wide.
-/
def Interval.ofNumber (x : Binary64) : Interval :=
  let significand := x.significand
  let quarter := x.scale - 2
  { middle := 4 * significand
    low :=
      if significand = 2 ^ (52 : Nat) ∧ 1 < x.exponentField then 4 * significand - 1
      else 4 * significand - 2
    high := 4 * significand + 2
    closed := significand % 2 == 0
    unitNumerator := 2 ^ quarter.toNat
    unitDenominator := 2 ^ (-quarter).toNat }

/-- Decide whether `coefficient * 10 ^ exponent` lies in the interval. -/
def Interval.contains (interval : Interval) (coefficient : Nat) (exponent : Int) : Bool :=
  let value := coefficient * 10 ^ exponent.toNat * interval.unitDenominator
  let scale := interval.unitNumerator * 10 ^ (-exponent).toNat
  if interval.closed then interval.low * scale ≤ value && value ≤ interval.high * scale
  else interval.low * scale < value && value < interval.high * scale

/-- The greatest power of ten, as an exponent, that does not exceed a positive quotient. -/
def floorLog10 (numerator denominator : Nat) : Int :=
  let guess : Int := (Binary64.floorLog2 numerator denominator * 30103) / 100000
  if denominator * 10 ^ (guess + 1).toNat ≤ numerator * 10 ^ (-(guess + 1)).toNat then guess + 1
  else if numerator * 10 ^ (-guess).toNat < denominator * 10 ^ guess.toNat then guess - 1
  else guess

/--
The neighbours of a number on the grid of multiples of `10 ^ exponent`, the nearer one
first.  A tie prefers the even neighbour.
-/
def neighbours (interval : Interval) (exponent : Int) : List Nat :=
  let numerator := interval.middle * interval.unitNumerator * 10 ^ (-exponent).toNat
  let denominator := interval.unitDenominator * 10 ^ exponent.toNat
  let below := numerator / denominator
  let remainder := numerator % denominator
  if 2 * remainder < denominator then [below, below + 1]
  else if denominator < 2 * remainder then [below + 1, below]
  else if below % 2 = 0 then [below, below + 1]
  else [below + 1, below]

/-- Remove trailing zeros, at most as many as the first argument says. -/
def trimZeros : Nat -> Decimal -> Decimal
  | 0, decimal => decimal
  | places + 1, decimal =>
      if decimal.coefficient ≠ 0 ∧ decimal.coefficient % 10 = 0 then
        trimZeros places ⟨decimal.coefficient / 10, decimal.exponent + 1⟩
      else decimal

/-- Search the grids from `digits` digits upward; `leading` is the power of ten of the first digit. -/
def searchGrids (interval : Interval) (leading : Int) : Nat -> Nat -> Decimal
  | 0, digits => ⟨(neighbours interval (leading - digits)).headD 0, leading - digits⟩
  | remaining + 1, digits =>
      let exponent := leading - digits
      match (neighbours interval exponent).find? (interval.contains · exponent) with
      | some coefficient => ⟨coefficient, exponent⟩
      | none => searchGrids interval leading remaining (digits + 1)

/-- The shortest decimal that reads back as the magnitude of a finite number. -/
def shortest (x : Binary64) : Decimal :=
  if x.significand = 0 then ⟨0, 0⟩
  else
    let interval := Interval.ofNumber x
    let leading := floorLog10 x.numerator x.denominator
    trimZeros 20 (searchGrids interval leading 17 0)

end Decimal
end InstanceDirectory
