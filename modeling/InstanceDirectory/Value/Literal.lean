import InstanceDirectory.Value
import InstanceDirectory.Decimal.Layout
import InstanceDirectory.Text.Quoted

/-!
# Literal text of values

Messages that mention a value show it as a literal, so that a text and a number with
the same characters are told apart.  An integer with very many digits has no literal: where
a message would show one, it says so instead.
-/

namespace InstanceDirectory

-- A power is the core library's here, whatever other library is in scope.
attribute [local instance (high)] instPowNat

/-- The number of decimal digits that a number may have to be written out. -/
def mostDigits : Nat := 4300

namespace Value

/-- What is said of a number with more digits than that. -/
def tooManyDigits : String :=
  "Exceeds the limit (" ++ toString mostDigits ++ " digits) for integer string conversion; "
    ++ "use sys.set_int_max_str_digits() to increase the limit"

/-- Join texts with a comma and a space. -/
def commaSeparated (parts : List String) : String :=
  String.intercalate ", " parts

/-- The literal of bytes: printable ASCII is shown as it is. -/
def bytesLiteral (content : List UInt8) : String :=
  let chars := content.map fun byte => Char.ofNat byte.toNat
  let quote := Text.enclosingQuote chars
  let escape (c : Char) : List Char :=
    if c.toNat < 0x7F then Text.escapeChar quote c else Text.escapeCode c.toNat
  String.ofList ('b' :: quote :: chars.flatMap escape ++ [quote])

/-- The literal of a date. -/
def dateLiteral (day : Date) : String :=
  "datetime.date(" ++ commaSeparated [toString day.year, toString day.month, toString day.day]
    ++ ")"

/-- The literal of a span of time: whole days, then the nonnegative rest. -/
def spanLiteral (microseconds : Int) : String :=
  let seconds := microseconds / 1000000
  let parts : List (String × Int) :=
    [("days=", seconds / 86400), ("seconds=", seconds % 86400),
      ("microseconds=", microseconds % 1000000)]
  "datetime.timedelta("
    ++ commaSeparated ((parts.filter fun part => part.2 != 0).map fun part =>
      part.1 ++ toString part.2)
    ++ ")"

/-- The literal of an offset from universal time. -/
def offsetLiteral (offset : Int) : String :=
  if offset = 0 then "datetime.timezone.utc"
  else "datetime.timezone(" ++ spanLiteral offset ++ ")"

/-- The literal of a timestamp: trailing zero seconds and microseconds are left out. -/
def timestampLiteral (moment : Timestamp) : String :=
  let fixed := [moment.date.year, moment.date.month, moment.date.day, moment.hour, moment.minute]
  let seconds :=
    if moment.microsecond ≠ 0 then [moment.second, moment.microsecond]
    else if moment.second ≠ 0 then [moment.second]
    else []
  let offset := (moment.offset.map fun offset => "tzinfo=" ++ offsetLiteral offset).toList
  "datetime.datetime(" ++ commaSeparated ((fixed ++ seconds).map toString ++ offset) ++ ")"

mutual

/-- The literal of a value. -/
def literal : Value -> String
  | null => "None"
  | bool truth => if truth then "True" else "False"
  | int number => toString number
  | float number => number.text
  | text content => Text.quoted content
  | bytes content => bytesLiteral content
  | timestamp moment => timestampLiteral moment
  | date day => dateLiteral day
  | list items => "[" ++ commaSeparated (literals items) ++ "]"
  | record fields => "\x7b" ++ commaSeparated (fieldLiterals fields) ++ "\x7d"

/-- The literals of the items of a list. -/
def literals : List Value -> List String
  | [] => []
  | item :: items => literal item :: literals items

/-- The literals of the fields of a record, each after its quoted name. -/
def fieldLiterals : List (String × Value) -> List String
  | [] => []
  | (name, value) :: fields => (Text.quoted name ++ ": " ++ literal value) :: fieldLiterals fields

end

mutual

/-- Decide whether no integer inside a value has too many digits to be written out. -/
def isWritable : Value -> Bool
  | int number => decide (number.natAbs < 10 ^ mostDigits)
  | list items => areWritable items
  | record fields => fieldsAreWritable fields
  | _ => true

/-- Decide it for all items of a list. -/
def areWritable : List Value -> Bool
  | [] => true
  | item :: items => isWritable item && areWritable items

/-- Decide it for the values of all fields of a record. -/
def fieldsAreWritable : List (String × Value) -> Bool
  | [] => true
  | (_, value) :: fields => isWritable value && fieldsAreWritable fields

end

/-- The message that shows a value: it is about the digits when there are too many of them. -/
def inMessage (value : Value) (message : String -> String) : String :=
  if value.isWritable then message value.literal else tooManyDigits

end Value
end InstanceDirectory
