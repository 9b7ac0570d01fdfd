import InstanceDirectory.Binary64
import InstanceDirectory.Text.Blank

/-!
# Numerals

How a text may spell a number.  A plain integer is a minus sign, if any, and decimal digits
without a leading zero.  Other spellings are tidied into a plain one: blanks around the
number, a plus sign, zeros in front, a fraction of zeros and single underscores between
digits carry no meaning.
-/

namespace InstanceDirectory
namespace Settings

/-- Why a text spells no integer. -/
inductive Misspelling where
  | malformed
  | oversized
deriving DecidableEq

namespace Numeral

/-- Split off a sign; `true` stands for a minus. -/
def splitSign : List Char -> Bool × List Char
  | '-' :: rest => (true, rest)
  | '+' :: rest => (false, rest)
  | chars => (false, chars)

/-- The number that decimal digits spell. -/
def digitsToNat (digits : List Char) : Nat :=
  digits.foldl (fun n c => 10 * n + (c.toNat - 48)) 0

/-- Underscores stand somewhere, but singly, and neither first nor last. -/
def isSeparated (chars : List Char) : Bool :=
  chars.contains '_' && chars.head? != some '_' && chars.getLast? != some '_'
    && !(chars.zip (chars.drop 1)).any fun pair => pair.1 == '_' && pair.2 == '_'

/-- The characters that are not underscores. -/
def withoutUnderscores (chars : List Char) : List Char :=
  chars.filter (· != '_')

/-! ## Integers -/

/-- The characters that an integer may take, a minus sign being one of them. -/
def longest : Nat := 4300

/-- The natural number that digits without a leading zero spell; `rest` has to be empty. -/
def plainMagnitude (signWidth : Nat) (digits rest : List Char) : Except Misspelling Nat :=
  if digits.isEmpty then .error .malformed
  else if digits.head? = some '0' then
    if digits.length = 1 ∧ rest.isEmpty then .ok 0 else .error .malformed
  else if longest < signWidth + digits.length then .error .oversized
  else if rest.isEmpty then .ok (digitsToNat digits)
  else .error .malformed

/-- The integer that a plain numeral spells. -/
def plainInteger (chars : List Char) : Except Misspelling Int :=
  let magnitude (signWidth : Nat) (chars : List Char) : Except Misspelling Int :=
    (plainMagnitude signWidth (chars.takeWhile Char.isDigit)
      (chars.dropWhile Char.isDigit)).map Int.ofNat
  match chars with
  | '-' :: rest => (magnitude 1 rest).map (- ·)
  | chars => magnitude 0 chars

/-- Zeros in front of a number, and underscores among them. -/
def isPadding (c : Char) : Bool :=
  c == '0' || c == '_'

/--
Drop the padding that starts with a zero.  Its last character stays when nothing or a point
follows, and the number itself has to start with a digit; after padding also with a minus.
-/
def dropPadding (chars : List Char) : Option (List Char) :=
  match chars with
  | '0' :: _ =>
      let kept := (chars.takeWhile isPadding).getLast?.toList
      match chars.dropWhile isPadding with
      | [] => some kept
      | '.' :: rest => some (kept ++ '.' :: rest)
      | first :: rest =>
          if first.isDigit || first == '-' then some (first :: rest) else none
  | first :: _ => if first.isDigit then some chars else none
  | [] => none

/-- Drop a point and the zeros after it, of which there is at least one. -/
def dropZeroFraction (chars : List Char) : List Char :=
  match chars.dropWhile (· != '.') with
  | '.' :: zeros =>
      if !zeros.isEmpty && zeros.all (· == '0') then chars.takeWhile (· != '.') else chars
  | _ => chars

/-- Drop separating underscores. -/
def dropSeparators (chars : List Char) : List Char :=
  if isSeparated chars then withoutUnderscores chars else chars

/-- The numeral without everything that carries no meaning. -/
def tidied (chars : List Char) : Option (List Char) :=
  let (negative, body) := splitSign (Text.trim chars)
  (dropPadding body).map fun body =>
    let body := dropSeparators (dropZeroFraction body)
    if negative then '-' :: body else body

/-- The integer that a text spells: the text as it is comes first, then the tidied one. -/
def integer (text : String) : Except Misspelling Int :=
  match plainInteger text.toList with
  | .ok number => .ok number
  | .error .oversized => .error .oversized
  | .error .malformed =>
      match tidied text.toList with
      | some chars => plainInteger chars
      | none => .error .malformed

/-! ## Floating-point numbers -/

/-- An exponent after its mark. -/
def exponent? (chars : List Char) : Option Int :=
  let (negative, digits) := splitSign chars
  if !digits.isEmpty && digits.all Char.isDigit then
    some (if negative then -(digitsToNat digits : Int) else digitsToNat digits)
  else none

/-- The exponent that ends a number; nothing is the exponent zero. -/
def exponentPart? : List Char -> Option Int
  | [] => some 0
  | mark :: rest => if mark = 'e' ∨ mark = 'E' then exponent? rest else none

/-- A number without a sign: digits with a point and an exponent, infinity, or not a number. -/
def magnitude? (negative : Bool) (chars : List Char) : Option Binary64 :=
  let word := String.ofList (chars.map Char.toLower)
  if word = "inf" ∨ word = "infinity" then some (.infinity negative)
  else if word = "nan" then some .nan
  else
    let whole := chars.takeWhile Char.isDigit
    let rest := chars.dropWhile Char.isDigit
    let (fraction, rest) :=
      match rest with
      | '.' :: rest => (rest.takeWhile Char.isDigit, rest.dropWhile Char.isDigit)
      | rest => ([], rest)
    if whole.isEmpty && fraction.isEmpty then none
    else
      (exponentPart? rest).map fun exponent =>
        .ofDecimal negative (digitsToNat (whole ++ fraction)) (exponent - fraction.length)

/-- The number that characters spell. -/
def plainBinary64? (chars : List Char) : Option Binary64 :=
  let (negative, body) := splitSign chars
  magnitude? negative body

/-- The number that a text spells: blanks around it or separating underscores, but not both. -/
def binary64? (text : String) : Option Binary64 :=
  plainBinary64? (Text.trim text.toList)
    <|> (if isSeparated text.toList then plainBinary64? (withoutUnderscores text.toList) else none)

end Numeral
end Settings
end InstanceDirectory
