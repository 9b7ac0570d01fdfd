import InstanceDirectory.Statement.Piece

/-!
# Conditions

A clause is the condition that a predicate states.  Equality with null, true and false
is written with that word and binds nothing; every other value is bound.
-/

namespace InstanceDirectory

-- A power is the core library's here, whatever other library is in scope: a literal
-- exponent needs its type for that.
attribute [local instance (high)] instPowNat

/-- A condition on a row. -/
inductive Clause where
  | isNull (column : Column)
  | isTruth (column : Column) (truth : Bool)
  | equals (column : Column) (value : Value)
  | anyOf (column : Column) (values : List Value)
  | equalsIgnoringCase (column : Column) (value : Value)
  | startsWith (column : Column) (pattern : String)
  | contains (column : Column) (pattern : String)
  | foreign (failure : Failure)

namespace Clause

/-- The character that makes the next one literal in a pattern. -/
def escapeChar : Char := '/'

/-- A character that is not literal in a pattern. -/
def isSpecial (c : Char) : Bool :=
  c == escapeChar || c == '%' || c == '_'

/-- A pattern that matches exactly the given characters. -/
def escape (chars : List Char) : List Char :=
  chars.flatMap fun c => if isSpecial c then [escapeChar, c] else [c]

@[simp] theorem escape_nil : escape [] = [] := rfl

@[simp] theorem escape_cons (c : Char) (chars : List Char) :
    escape (c :: chars) = (if isSpecial c then [escapeChar, c] else [c]) ++ escape chars := rfl

/-- The pattern for a text; only a text has one. -/
def pattern : Value -> Except Failure String
  | .text content => .ok (String.ofList (escape content.toList))
  | _ => .error (.type "String value expected when autoescape=True")

/-- The condition that a column equals a value. -/
def equality (column : Column) : Value -> Clause
  | .null => isNull column
  | .bool truth => isTruth column truth
  | value => equals column value

/-- The condition that a predicate states. -/
def ofPredicate : Predicate -> Except Failure Clause
  | .equals column value => .ok (equality column value)
  | .anyOf column values _ => .ok (anyOf column values)
  | .text column value .equals => .ok (equality column value)
  | .text column value .equalsIgnoreCase => .ok (equalsIgnoringCase column value)
  | .text column value .startsWith => do return startsWith column (← pattern value)
  | .text column value .contains => do return contains column (← pattern value)
  | .unstated => .error { kind := .unimplemented, message := "" }
  | .foreign failure => .ok (foreign failure)

/-- The column that a condition is about. -/
def column? : Clause -> Option Column
  | isNull column => some column
  | isTruth column _ => some column
  | equals column _ => some column
  | anyOf column _ => some column
  | equalsIgnoringCase column _ => some column
  | startsWith column _ => some column
  | contains column _ => some column
  | foreign _ => none

/-- The narrowest type that holds an integer. -/
def integerType (number : Int) : SqlType :=
  if number.natAbs < 2 ^ (31 : Nat) then .integer else .bigint

/-- The type of a column when a single value is compared with it. -/
def scalarType (column : Column) : SqlType :=
  if column.type = .text then .varchar else column.type

/-- The type to which a value compared with a column is cast. -/
def valueType (column : Column) : Value -> SqlType
  | .text _ => .varchar
  | .int number =>
      if column.type = .bigint ∨ column.type = .smallint then column.type else integerType number
  | .float _ => .float
  | .bytes _ => .bytea
  | .timestamp moment =>
      if column.type = .timestampWithZone ∨ moment.isAware then .timestampWithZone
      else .timestampWithoutZone
  | .date _ => .date
  | _ => scalarType column

/-- The stem of the labels of values that are compared with no column directly. -/
def freeStem : String := "param"

/-- The pieces of a condition on its own. -/
def pieces : Clause -> Except Failure (List Piece)
  | isNull column => .ok [.column column, .words " IS NULL"]
  | isTruth column truth =>
      .ok [.column column, .words (if truth then " = true" else " = false")]
  | equals column value =>
      .ok [.column column, .words " = ", .bound column.name value { type := valueType column value }]
  | anyOf column values =>
      .ok [.column column, .words " = ANY (",
        .bound (column.name ++ "_list") (.list values) { type := column.type, array := true },
        .words ")"]
  | equalsIgnoringCase column value =>
      .ok [.words "lower(", .column column, .words ") = lower(",
        .bound freeStem value { type := .varchar }, .words ")"]
  | startsWith column pattern =>
      .ok [.column column, .words " LIKE ",
        .bound column.name (.text pattern) { type := .varchar }, .words " || '%' ESCAPE '/'"]
  | contains column pattern =>
      .ok [.column column, .words " LIKE '%' || ",
        .bound column.name (.text pattern) { type := .varchar }, .words " || '%' ESCAPE '/'"]
  | foreign failure => .error failure

/-- A pattern match stands between parentheses beside other conditions. -/
def isPatternMatch : Clause -> Bool
  | startsWith _ _ => true
  | contains _ _ => true
  | _ => false

/-- The pieces of a condition as one of several. -/
def conjunctPieces (clause : Clause) : Except Failure (List Piece) := do
  let pieces ← clause.pieces
  return if clause.isPatternMatch then .words "(" :: pieces ++ [.words ")"] else pieces

/-- The text of a condition on its own. -/
def write (schema : Schema) (clause : Clause) : Except Failure String := do
  return Piece.text schema (← clause.pieces)

end Clause
end InstanceDirectory
