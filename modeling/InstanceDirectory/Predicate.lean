import InstanceDirectory.Schema

/-!
# Predicates and page requests

A predicate is one condition of a search, bound to a column.  A page request says which
part of the matches to return and in which order.  Neither puts a caller's value into
statement text: values are bound when the conditions are written.
-/

namespace InstanceDirectory

/-- How a text predicate compares a column with its value. -/
inductive Comparison where
  | equals
  | equalsIgnoreCase
  | startsWith
  | contains
deriving DecidableEq, Inhabited

namespace Comparison

/-- All comparisons with their names. -/
def named : List (String × Comparison) := [
    ("equals", equals), ("equals_ignore_case", equalsIgnoreCase), ("starts_with", startsWith),
    ("contains", contains)
  ]

/-- The comparison with a given name. -/
def find (name : String) : Except Failure Comparison :=
  match named.find? fun entry => entry.1 == name with
  | some entry => .ok entry.2
  | none => .error (.value (Text.quoted name ++ " is not a valid TextComparison"))

end Comparison

/-- One condition of a search. -/
inductive Predicate where
  /-- The column equals the value. -/
  | equals (column : Column) (value : Value)
  /-- The column equals one of the values, of which there is at least one. -/
  | anyOf (column : Column) (values : List Value) (nonempty : values ≠ [])
  /-- The column compares with a text. -/
  | text (column : Column) (value : Value) (comparison : Comparison)
  /-- A predicate that states no condition and cannot be applied. -/
  | unstated
  /-- A predicate of the caller's own whose condition cannot be written. -/
  | foreign (failure : Failure)

namespace Predicate

/-- The failure of listing no values: it must neither match nothing nor match everything. -/
def emptyList (column : Column) : Failure :=
  .invalidArgument "Errors.Query.InvalidRequest" "QUERY-LsT0e"
    [("column", .text column.name), ("reason", .text "empty value list")] none

/-- A predicate that matches any of the listed values. -/
def list (column : Column) (values : List Value) : Except Failure Predicate :=
  if nonempty : values ≠ [] then .ok (anyOf column values nonempty)
  else .error (emptyList column)

/-- Add an element at the end unless it is present. -/
def addNew (seen : List String) (id : String) : List String :=
  if id ∈ seen then seen else seen ++ [id]

@[simp] theorem mem_addNew (seen : List String) (added id : String) :
    id ∈ addNew seen added ↔ id ∈ seen ∨ id = added := by
  by_cases known : added ∈ seen
  · constructor
    · intro present
      exact Or.inl (by simpa [addNew, known] using present)
    · rintro (present | rfl)
      · simpa [addNew, known] using present
      · simp [addNew, known]
  · simp [addNew, known]

/-- The elements of a list in order of first occurrence. -/
def firstOccurrences (ids : List String) : List String :=
  ids.foldl addNew []

theorem mem_foldl_addNew (ids seen : List String) (id : String) :
    id ∈ ids.foldl addNew seen ↔ id ∈ seen ∨ id ∈ ids := by
  induction ids generalizing seen with
  | nil => simp
  | cons first rest restHypothesis => simp [restHypothesis, or_assoc]

@[simp] theorem mem_firstOccurrences (ids : List String) (id : String) :
    id ∈ firstOccurrences ids ↔ id ∈ ids := by
  simp [firstOccurrences, mem_foldl_addNew]

/-- A predicate that matches the instances with the given identities. -/
def instanceIds (ids : List String) : Except Failure Predicate :=
  list .id ((firstOccurrences ids).map .text)

end Predicate

/-- Which part of the matches to return, and in which order. -/
structure PageRequest where
  /-- How many matches to skip, when that is said. -/
  offset : Option Nat := none
  /-- How many matches to return at most, when that is said. -/
  limit : Option Nat := none
  /-- The column that orders the matches. -/
  sorting : Option Column := none
  /-- Smallest first. -/
  ascending : Bool := false
deriving DecidableEq, Inhabited

namespace PageRequest

/-- The failure of asking for a negative part of the matches. -/
def negative (offset limit : Value) : Failure :=
  .invalidArgument "Errors.Query.InvalidRequest" "QUERY-pG4n8"
    [("offset", offset), ("limit", limit)] none

/-- The failure of comparing a value with zero that cannot be compared with it. -/
def incomparable (value : Value) : Failure :=
  .type ("'<' not supported between instances of '" ++ value.fullKindName ++ "' and 'int'")

/-- Decide whether a number is negative; other kinds cannot be compared with zero. -/
def isNegative : Value -> Except Failure Bool
  | .bool _ => .ok false
  | .int number => .ok (number < 0)
  | .float number => .ok (number.negative && !number.isZero && !number.isNaN)
  | value => .error (incomparable value)

/--
The bound that a number sets.  Zero, and what is not a number, sets none; a fraction is cut
off after the number was found to set one, so it may set a bound of zero.
-/
def bound : Value -> Except Failure (Option Nat)
  | .bool truth => .ok (if truth then some 1 else none)
  | .int number => .ok (if 0 < number then some number.toNat else none)
  | .float number =>
      if number.isNaN || number.negative || number.isZero then .ok none
      else if number.isInfinite then .error .infinite
      else .ok (some (number.numerator / number.denominator))
  | value => .error (incomparable value)

/-- A page request from the values that a caller gives. -/
def build (offset limit : Value) (sorting : Option Column) (ascending : Bool) :
    Except Failure PageRequest := do
  if (← isNegative offset) then .error (negative offset limit)
  else if (← isNegative limit) then .error (negative offset limit)
  else return { offset := ← bound offset, limit := ← bound limit, sorting, ascending }

end PageRequest

/-- The predicates and the page request of a search. -/
structure Search where
  /-- The part of the matches to return. -/
  request : PageRequest := {}
  /-- The conditions, all of which a match satisfies. -/
  predicates : List Predicate := []

end InstanceDirectory
