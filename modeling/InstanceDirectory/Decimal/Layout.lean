import InstanceDirectory.Decimal.Shortest

/-!
# Writing decimals

A layout fixes where positional notation ends and how an exponent is written.  The
library writes all its floating-point numbers in `Layout.standard`.
-/

namespace InstanceDirectory
namespace Decimal

/-- The choices that a decimal notation makes. -/
structure Layout where
  /-- The least power of ten of the first digit that is written positionally. -/
  leastPositional : Int
  /-- The first power of ten of the first digit that is no longer written positionally. -/
  positionalLimit : Int
  /-- Whether a whole number in positional notation ends in a zero fraction. -/
  keepsFraction : Bool
  /-- The least number of digits of an exponent. -/
  exponentWidth : Nat
  /-- The text of infinity. -/
  infinity : String
  /-- The text of the number that is not one. -/
  notANumber : String

/--
Numbers from `0.0001` up to `10 ^ 16` are positional and keep a fraction; an exponent has
a sign and at least two digits.
-/
def Layout.standard : Layout where
  leastPositional := -4
  positionalLimit := 16
  keepsFraction := true
  exponentWidth := 2
  infinity := "inf"
  notANumber := "nan"

/-- Zeros written `count` times. -/
def zeros (count : Nat) : String :=
  String.ofList (List.replicate count '0')

/-- A natural number, padded with leading zeros. -/
def padded (width value : Nat) : String :=
  let digits := toString value
  zeros (width - digits.length) ++ digits

/-- Positional notation of a decimal whose first digit has the given power of ten. -/
def positional (layout : Layout) (digits : String) (leading : Int) : String :=
  let count := digits.length
  if leading < 0 then "0." ++ zeros (-leading - 1).toNat ++ digits
  else
    let whole := leading.toNat + 1
    if count ≤ whole then
      digits ++ zeros (whole - count) ++ (if layout.keepsFraction then ".0" else "")
    else
      String.ofList (digits.toList.take whole) ++ "." ++ String.ofList (digits.toList.drop whole)

/-- Exponent notation of a decimal whose first digit has the given power of ten. -/
def scientific (layout : Layout) (digits : String) (leading : Int) : String :=
  let rest := String.ofList (digits.toList.drop 1)
  String.ofList (digits.toList.take 1) ++ (if rest.isEmpty then "" else "." ++ rest)
    ++ (if leading < 0 then "e-" else "e+") ++ padded layout.exponentWidth leading.natAbs

/-- The text of a decimal in a layout. -/
def write (layout : Layout) (decimal : Decimal) : String :=
  let digits := toString decimal.coefficient
  let leading := decimal.exponent + digits.length - 1
  if decimal.coefficient = 0 then positional layout "0" 0
  else if layout.leastPositional ≤ leading ∧ leading < layout.positionalLimit then
    positional layout digits leading
  else scientific layout digits leading

end Decimal

/-- The text of a number: the shortest decimal that reads back, in a layout. -/
def Binary64.write (layout : Decimal.Layout) (x : Binary64) : String :=
  if x.isNaN then layout.notANumber
  else
    (if x.negative then "-" else "")
      ++ (if x.isInfinite then layout.infinity else (Decimal.shortest x).write layout)

/-- The text of a number in the standard layout. -/
def Binary64.text (x : Binary64) : String :=
  x.write Decimal.Layout.standard

end InstanceDirectory
