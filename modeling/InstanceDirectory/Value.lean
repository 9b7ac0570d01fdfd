import InstanceDirectory.Binary64
import InstanceDirectory.Calendar

/-!
# Values

A value is what a column of a row holds, what a predicate compares with and what an
event carries.  The store decides which values arrive, so a value keeps its kind and is
checked where it is used.
-/

namespace InstanceDirectory

/-- A dynamically typed value. -/
inductive Value where
  | null
  | bool (truth : Bool)
  | int (number : Int)
  | float (number : Binary64)
  | text (content : String)
  | bytes (content : List UInt8)
  | timestamp (moment : Timestamp)
  | date (day : Date)
  | list (items : List Value)
  | record (fields : List (String × Value))
deriving Inhabited

/-- Named values in the order they were given. -/
abbrev Fields : Type := List (String × Value)

namespace Value

/-- The name of a value's kind, as messages give it. -/
def kindName : Value -> String
  | null => "NoneType"
  | bool _ => "bool"
  | int _ => "int"
  | float _ => "float"
  | text _ => "str"
  | bytes _ => "bytes"
  | timestamp _ => "datetime"
  | date _ => "date"
  | list _ => "list"
  | record _ => "dict"

/-- The full name of a value's kind: kinds of the calendar are named inside it. -/
def fullKindName : Value -> String
  | timestamp moment => "datetime." ++ kindName (timestamp moment)
  | date day => "datetime." ++ kindName (date day)
  | value => value.kindName

/-- Null, false, zero and every empty value stand for something absent. -/
def isBlank : Value -> Bool
  | null => true
  | bool truth => !truth
  | int number => number == 0
  | float number => number.isZero
  | text content => content.isEmpty
  | bytes content => content.isEmpty
  | timestamp _ => false
  | date _ => false
  | list items => items.isEmpty
  | record fields => fields.isEmpty

/-- The integer that a value equals: truth values count as zero and one. -/
def toInt? : Value -> Option Int
  | bool truth => some (if truth then 1 else 0)
  | int number => some number
  | float number => number.toInt?
  | _ => none

/-- A value that is an integer by kind; truth values are integers too. -/
def integer? : Value -> Option Int
  | bool truth => some (if truth then 1 else 0)
  | int number => some number
  | _ => none

/-- A natural number as a value. -/
def ofNat (n : Nat) : Value :=
  int n

/-- An optional text as a value. -/
def ofText? : Option String -> Value
  | some content => text content
  | none => null

end Value

namespace Fields

/-- The value of a field. -/
def get? (fields : Fields) (name : String) : Option Value :=
  (fields.find? fun field => field.1 == name).map Prod.snd

/-- Decide whether a field is present. -/
def contains (fields : Fields) (name : String) : Bool :=
  fields.any fun field => field.1 == name

/-- Set a field: a present one keeps its position, a new one is added at the end. -/
def insert (fields : Fields) (name : String) (value : Value) : Fields :=
  if contains fields name then
    fields.map fun field => if field.1 == name then (name, value) else field
  else fields ++ [(name, value)]

/-- Set every field of `changes`, in order. -/
def update (fields changes : Fields) : Fields :=
  changes.foldl (fun fields change => insert fields change.1 change.2) fields

/-- Remove a field. -/
def erase (fields : Fields) (name : String) : Fields :=
  fields.filter fun field => field.1 != name

/-- Set a field unless it is present. -/
def insertIfAbsent (fields : Fields) (name : String) (value : Value) : Fields :=
  if contains fields name then fields else fields ++ [(name, value)]

end Fields
end InstanceDirectory
