import InstanceDirectory.Settings.Numeral
import InstanceDirectory.Value

/-!
# Lax reading of configured values

Configuration arrives as texts from the environment and as values from callers.  A value
is accepted when it clearly denotes one of the wanted type: a text may spell a number, a
truth value counts as zero or one, and bytes are read as the text that they encode.
-/

namespace InstanceDirectory

-- A power is the core library's here, whatever other library is in scope: a literal
-- exponent needs its type for that.
attribute [local instance (high)] instPowNat

namespace Settings

/-- A rule that a value breaks. -/
structure Complaint where
  /-- The identifier of the rule. -/
  rule : String
  /-- The explanation for readers. -/
  explanation : String
deriving DecidableEq

namespace Complaint

/-- A text that spells no integer. -/
def intParsing : Complaint :=
  ⟨"int_parsing", "Input should be a valid integer, unable to parse string as an integer"⟩

/-- A kind of value that is no integer. -/
def intType : Complaint :=
  ⟨"int_type", "Input should be a valid integer"⟩

/-- A number that is not whole. -/
def intFromFloat : Complaint :=
  ⟨"int_from_float", "Input should be a valid integer, got a number with a fractional part"⟩

/-- A whole number outside the words of the machine. -/
def intParsingSize : Complaint :=
  ⟨"int_parsing_size",
    "Unable to parse input string as an integer, exceeded maximum size"⟩

/-- An infinity, or not a number. -/
def finiteNumber : Complaint :=
  ⟨"finite_number", "Input should be a finite number"⟩

/-- A text that spells no number. -/
def floatParsing : Complaint :=
  ⟨"float_parsing", "Input should be a valid number, unable to parse string as a number"⟩

/-- A kind of value that is no number. -/
def floatType : Complaint :=
  ⟨"float_type", "Input should be a valid number"⟩

/-- A kind of value that is no text. -/
def stringType : Complaint :=
  ⟨"string_type", "Input should be a valid string"⟩

/-- Bytes that encode no text. -/
def stringUnicode : Complaint :=
  ⟨"string_unicode",
    "Input should be a valid string, unable to parse raw data as a unicode string"⟩

/-- An empty text where something is needed. -/
def stringTooShort : Complaint :=
  ⟨"string_too_short", "String should have at least 1 character"⟩

/-- A value that is neither true nor false. -/
def boolParsing : Complaint :=
  ⟨"bool_parsing", "Input should be a valid boolean, unable to interpret input"⟩

/-- A kind of value that is no truth value. -/
def boolType : Complaint :=
  ⟨"bool_type", "Input should be a valid boolean"⟩

/-- A number below its least value. -/
def tooSmall (least : Int) : Complaint :=
  ⟨"greater_than_equal", "Input should be greater than or equal to " ++ toString least⟩

/-- A number above its greatest value. -/
def tooLarge (greatest : Int) : Complaint :=
  ⟨"less_than_equal", "Input should be less than or equal to " ++ toString greatest⟩

/-- A number that is not positive. -/
def notPositive : Complaint :=
  ⟨"greater_than", "Input should be greater than 0"⟩

end Complaint

namespace Lax

/-- The text that bytes encode. -/
def decodeBytes (content : List UInt8) : Option String :=
  String.fromUTF8? ⟨content.toArray⟩

/-- The complaint about a text that spells no integer. -/
def misspelled : Misspelling -> Complaint
  | .malformed => .intParsing
  | .oversized => .intParsingSize

/-- The integer that a text spells. -/
def integerOfText (content : String) : Except Complaint Int :=
  (Numeral.integer content).mapError misspelled

/-- The texts that mean true. -/
def trueWords : List String := ["1", "t", "y", "true", "yes", "on"]

/-- The texts that mean false. -/
def falseWords : List String := ["0", "f", "n", "false", "no", "off"]

/-- The truth value that a text spells, in any case of letters. -/
def parseBool? (text : String) : Option Bool :=
  let word := String.ofList (text.toList.map Char.toLower)
  if trueWords.contains word then some true
  else if falseWords.contains word then some false
  else none

/-- The truth value of zero and one. -/
def boolOfInt? (number : Int) : Option Bool :=
  if number = 0 then some false else if number = 1 then some true else none

/-- An answer, or a complaint without one. -/
def orComplain (complaint : Complaint) : Option α -> Except Complaint α
  | some answer => .ok answer
  | none => .error complaint

/-- An integer that lies strictly between the bounds of a signed 64-bit word. -/
def isWord (number : Int) : Bool :=
  -(2 ^ (63 : Nat)) < number && number < 2 ^ (63 : Nat)

/-- The integer that a number equals: it is finite, whole and of the size of a word. -/
def integerOfFloat (number : Binary64) : Except Complaint Int :=
  if !number.isFinite then .error .finiteNumber
  else
    match number.toInt? with
    | some whole => if isWord whole then .ok whole else .error .intParsingSize
    | none => .error .intFromFloat

/-- Read an integer. -/
def integer : Value -> Except Complaint Int
  | .bool truth => .ok (if truth then 1 else 0)
  | .int number => .ok number
  | .float number => integerOfFloat number
  | .text content => integerOfText content
  | .bytes content => do integerOfText (← orComplain .intParsing (decodeBytes content))
  | _ => .error .intType

/-- The number nearest to an integer, which must not lie beyond all finite ones. -/
def numberOfInteger (number : Int) : Except Complaint Binary64 :=
  let nearest := Binary64.ofInt number
  if nearest.isFinite then .ok nearest else .error .floatType

/-- Read a number. -/
def number : Value -> Except Complaint Binary64
  | .bool truth => .ok (.ofInt (if truth then 1 else 0))
  | .int number => numberOfInteger number
  | .float number => .ok number
  | .text content => orComplain .floatParsing (Numeral.binary64? content)
  | .bytes content => orComplain .floatParsing ((decodeBytes content).bind Numeral.binary64?)
  | _ => .error .floatType

/-- Read a text. -/
def text : Value -> Except Complaint String
  | .text content => .ok content
  | .bytes content => orComplain .stringUnicode (decodeBytes content)
  | _ => .error .stringType

/-- Read a text that is kept secret; why a value is no text is kept secret as well. -/
def secret (value : Value) : Except Complaint String :=
  (text value).mapError fun _ => .stringType

/-- Read a truth value. -/
def bool : Value -> Except Complaint Bool
  | .bool truth => .ok truth
  | .int number =>
      if -(2 ^ (63 : Nat)) ≤ number ∧ number < 2 ^ (63 : Nat) then
        orComplain .boolParsing (boolOfInt? number)
      else .error .boolType
  | .float number =>
      match integerOfFloat number with
      | .ok whole => orComplain .boolParsing (boolOfInt? whole)
      | .error _ => .error .boolType
  | .text content => orComplain .boolParsing (parseBool? content)
  | .bytes content => orComplain .boolParsing ((decodeBytes content).bind parseBool?)
  | _ => .error .boolType

/-- Read something that may be null. -/
def optional (read : Value -> Except Complaint α) : Value -> Except Complaint (Option α)
  | .null => .ok none
  | value => (read value).map some

/-- Require an integer to lie between bounds; a missing bound admits everything. -/
def within (least : Int) (greatest : Option Int) (number : Int) : Except Complaint Int :=
  if number < least then .error (.tooSmall least)
  else
    match greatest with
    | some greatest => if greatest < number then .error (.tooLarge greatest) else .ok number
    | none => .ok number

/-- Require a text to hold something. -/
def nonempty (content : String) : Except Complaint String :=
  if content.isEmpty then .error .stringTooShort else .ok content

/-- Require a number to be positive. -/
def positive (number : Binary64) : Except Complaint Binary64 :=
  if number.isNaN || number.negative || number.isZero then .error .notPositive else .ok number

end Lax
end Settings
end InstanceDirectory
