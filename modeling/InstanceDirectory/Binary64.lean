/-!
# Binary64 numbers

A floating-point number is kept as its 64-bit pattern, so equality is decidable
and every question about the number is one about natural numbers.  A finite
number is `significand * 2 ^ scale` with a sign.  Reading a fraction rounds to the
nearest number, and a tie goes to the even significand.
-/

namespace InstanceDirectory

-- A power is the core library's here, whatever other library is in scope: a literal
-- exponent needs its type for that.
attribute [local instance (high)] instPowNat

/-- A floating-point number of 64 bits, given by its bit pattern. -/
structure Binary64 where
  /-- Sign bit, eleven exponent bits and fifty-two fraction bits. -/
  bits : UInt64
deriving DecidableEq, Inhabited

namespace Binary64

/-- The sign bit is set. -/
def negative (x : Binary64) : Bool :=
  x.bits.toNat / 2 ^ (63 : Nat) == 1

/-- The biased exponent. -/
def exponentField (x : Binary64) : Nat :=
  x.bits.toNat / 2 ^ (52 : Nat) % 2048

/-- The fraction bits. -/
def fraction (x : Binary64) : Nat :=
  x.bits.toNat % 2 ^ (52 : Nat)

/-- The largest exponent field is kept for infinities and numbers that are not. -/
def isFinite (x : Binary64) : Bool :=
  x.exponentField != 2047

/-- Not a number. -/
def isNaN (x : Binary64) : Bool :=
  !x.isFinite && x.fraction != 0

/-- Positive or negative infinity. -/
def isInfinite (x : Binary64) : Bool :=
  !x.isFinite && x.fraction == 0

/-- The integer that `2 ^ scale` multiplies: a normal number has a hidden leading bit. -/
def significand (x : Binary64) : Nat :=
  if x.exponentField = 0 then x.fraction else x.fraction + 2 ^ (52 : Nat)

/-- The power of two of the last bit of the significand. -/
def scale (x : Binary64) : Int :=
  (max x.exponentField 1 : Nat) - 1075

/-- Either zero. -/
def isZero (x : Binary64) : Bool :=
  x.isFinite && x.significand == 0

/-- The numerator of the magnitude of a finite number. -/
def numerator (x : Binary64) : Nat :=
  x.significand * 2 ^ x.scale.toNat

/-- The denominator of the magnitude of a finite number, a power of two. -/
def denominator (x : Binary64) : Nat :=
  2 ^ (-x.scale).toNat

/-- The integer that a finite number without a fractional part equals. -/
def toInt? (x : Binary64) : Option Int :=
  if x.isFinite && x.numerator % x.denominator == 0 then
    let magnitude := x.numerator / x.denominator
    some (if x.negative then -(magnitude : Int) else magnitude)
  else none

/-- Assemble a sign and the remaining sixty-three bits. -/
def ofMagnitudeBits (negative : Bool) (magnitude : Nat) : Binary64 :=
  ⟨UInt64.ofNat (if negative then 2 ^ (63 : Nat) + magnitude else magnitude)⟩

/-- Infinity of either sign. -/
def infinity (negative : Bool) : Binary64 :=
  ofMagnitudeBits negative (2047 * 2 ^ (52 : Nat))

/-- The number that is not one. -/
def nan : Binary64 :=
  ofMagnitudeBits false (2047 * 2 ^ (52 : Nat) + 2 ^ (51 : Nat))

/-- The integer nearest to a quotient; a tie goes to the even neighbour. -/
def roundHalfEven (numerator denominator : Nat) : Nat :=
  let quotient := numerator / denominator
  let remainder := numerator % denominator
  if 2 * remainder < denominator then quotient
  else if denominator < 2 * remainder then quotient + 1
  else quotient + quotient % 2

/-- The greatest power of two, as an exponent, that does not exceed a positive quotient. -/
def floorLog2 (numerator denominator : Nat) : Int :=
  let guess : Int := numerator.log2 - denominator.log2
  if numerator * 2 ^ (-guess).toNat < denominator * 2 ^ guess.toNat then guess - 1 else guess

/-- The number nearest to a quotient of natural numbers, with the given sign. -/
def ofRatio (negative : Bool) (numerator denominator : Nat) : Binary64 :=
  if numerator = 0 then ofMagnitudeBits negative 0
  else
    let lastPlace : Int := max (floorLog2 numerator denominator - 52) (-1074)
    let significand :=
      roundHalfEven (numerator * 2 ^ (-lastPlace).toNat) (denominator * 2 ^ lastPlace.toNat)
    let magnitude :=
      if significand < 2 ^ (52 : Nat) then significand
      else (lastPlace + 1075).toNat * 2 ^ (52 : Nat) + (significand - 2 ^ (52 : Nat))
    if magnitude < 2047 * 2 ^ (52 : Nat) then ofMagnitudeBits negative magnitude
    else infinity negative

/--
The number nearest to `coefficient * 10 ^ exponent`.  Powers beyond the range of
finite numbers are answered without being computed.
-/
def ofDecimal (negative : Bool) (coefficient : Nat) (exponent : Int) : Binary64 :=
  if coefficient = 0 then ofMagnitudeBits negative 0
  else if 400 < exponent then infinity negative
  else if exponent + coefficient.log2 < -401 then ofMagnitudeBits negative 0
  else ofRatio negative (coefficient * 10 ^ exponent.toNat) (10 ^ (-exponent).toNat)

/-- The number nearest to an integer. -/
def ofInt (n : Int) : Binary64 :=
  ofRatio (n < 0) n.natAbs 1

end Binary64
end InstanceDirectory
