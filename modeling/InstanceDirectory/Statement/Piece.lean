import InstanceDirectory.Predicate

/-!
# Pieces of statement text

Statement text is a sequence of pieces: fixed words, tables, columns and bound values.
A bound value appears in the text as a numbered placeholder with a cast, and the bound
values in order are the arguments, so placeholders and arguments always agree.

Every bound value has a label, made of a stem and a count.  A name of a table that contains
the mark of a label gets the placeholder's number in its place; a name without a percent
sign is written as it is.
-/

namespace InstanceDirectory

/-- The type to which a placeholder is cast. -/
structure Cast where
  /-- The type of the value or of its elements. -/
  type : SqlType
  /-- The value is an array. -/
  array : Bool := false
deriving DecidableEq

/-- The name of a cast in statement text. -/
def Cast.name (cast : Cast) : String :=
  cast.type.name ++ (if cast.array then "[]" else "")

/-- One piece of a statement. -/
inductive Piece where
  | words (text : String)
  | table (table : Table)
  | column (column : Column)
  | bound (stem : String) (value : Value) (cast : Cast)

namespace Piece

/-- The value that a piece binds. -/
def value? : Piece -> Option Value
  | bound _ value _ => some value
  | _ => none

/-- The stem of the label of a bound value. -/
def stem? : Piece -> Option String
  | bound stem _ _ => some stem
  | _ => none

/-- Stems with the number of times that each has occurred, `earlier` ones being counted. -/
def countStems (earlier : List String) : List String -> List String
  | [] => []
  | stem :: stems =>
      (stem ++ "_" ++ toString (earlier.count stem + 1)) :: countStems (stem :: earlier) stems

/-- The labels of the bound values in order. -/
def labels (pieces : List Piece) : List String :=
  countStems [] (pieces.filterMap stem?)

/-- The characters that mark a label. -/
def mark (label : String) : List Char :=
  '%' :: '(' :: (label.toList ++ [')', 's'])

/-- A numbered placeholder without its cast. -/
def numeral (number : Nat) : String :=
  "$" ++ toString number

/-- The mark at the start of characters: its placeholder and its width. -/
def markAt? (labels : List String) (chars : List Char) : Option (String × Nat) :=
  (labels.zipIdx.find? fun entry => (mark entry.1).isPrefixOf chars).map fun entry =>
    (numeral (entry.2 + 1), (mark entry.1).length)

/-- Replace marks by placeholders; the first `passed` characters belong to a replaced mark. -/
def numberMarks (labels : List String) : Nat -> List Char -> List Char
  | _, [] => []
  | passed + 1, _ :: rest => numberMarks labels passed rest
  | 0, first :: rest =>
      match markAt? labels (first :: rest) with
      | some (placeholder, width) => placeholder.toList ++ numberMarks labels (width - 1) rest
      | none => first :: numberMarks labels 0 rest

/-- A name in statement text. -/
def nameText (labels : List String) (name : String) : String :=
  String.ofList (numberMarks labels 0 name.toList)

theorem markAt?_cons
    (labels : List String)
    (first : Char)
    (rest : List Char)
    (noPercent : first ≠ '%') :
    markAt? labels (first :: rest) = none := by
  have starts (label : String) : (mark label).isPrefixOf (first :: rest) = false := by
    simp [mark, List.isPrefixOf, Ne.symm noPercent]
  simp [markAt?, starts]

/-- Characters without a percent sign contain no mark. -/
theorem numberMarks_of_not_mem
    (labels : List String)
    (chars : List Char)
    (noPercent : '%' ∉ chars) :
    numberMarks labels 0 chars = chars := by
  induction chars with
  | nil => rfl
  | cons first rest restHypothesis =>
      have firstDiffers : first ≠ '%' := fun same => noPercent (by simp [same])
      have restWithout : '%' ∉ rest := fun present => noPercent (by simp [present])
      simp [numberMarks, markAt?_cons labels first rest firstDiffers, restHypothesis restWithout]

/-- A name without a percent sign is written as it is. -/
theorem nameText_of_not_mem
    (labels : List String)
    (name : String)
    (noPercent : '%' ∉ name.toList) :
    nameText labels name = name := by
  simp [nameText, numberMarks_of_not_mem labels name.toList noPercent]

/-- A numbered placeholder. -/
def placeholder (number : Nat) (cast : Cast) : String :=
  numeral number ++ "::" ++ cast.name

/--
The text of pieces among bound values with the given labels; the first placeholder gets the
given number.
-/
def write (schema : Schema) (labels : List String) : Nat -> List Piece -> String
  | _, [] => ""
  | number, words text :: pieces => text ++ write schema labels number pieces
  | number, table name :: pieces =>
      nameText labels (schema.tableText name) ++ write schema labels number pieces
  | number, column name :: pieces =>
      nameText labels (schema.columnText name) ++ write schema labels number pieces
  | number, bound _ _ cast :: pieces =>
      placeholder number cast ++ write schema labels (number + 1) pieces

/-- The text of all pieces of a statement. -/
def text (schema : Schema) (pieces : List Piece) : String :=
  write schema (labels pieces) 1 pieces

/-- The bound values in order. -/
def arguments (pieces : List Piece) : List Value :=
  pieces.filterMap value?

@[simp] theorem arguments_nil : arguments [] = [] := rfl

@[simp] theorem arguments_words (text : String) (pieces : List Piece) :
    arguments (words text :: pieces) = arguments pieces := rfl

@[simp] theorem arguments_table (name : Table) (pieces : List Piece) :
    arguments (table name :: pieces) = arguments pieces := rfl

@[simp] theorem arguments_column (name : Column) (pieces : List Piece) :
    arguments (column name :: pieces) = arguments pieces := rfl

@[simp] theorem arguments_bound
    (stem : String)
    (value : Value)
    (cast : Cast)
    (pieces : List Piece) :
    arguments (bound stem value cast :: pieces) = value :: arguments pieces := rfl

@[simp] theorem arguments_append (first second : List Piece) :
    arguments (first ++ second) = arguments first ++ arguments second := by
  simp [arguments]

/-- Text continues with the numbers that the bound values before it have left. -/
theorem write_append
    (schema : Schema)
    (labels : List String)
    (number : Nat)
    (first second : List Piece) :
    write schema labels number (first ++ second) =
      write schema labels number first
        ++ write schema labels (number + (arguments first).length) second := by
  induction first generalizing number with
  | nil => simp [write]
  | cons piece pieces piecesHypothesis =>
      cases piece with
      | words text => simp [write, piecesHypothesis, String.append_assoc]
      | table name => simp [write, piecesHypothesis, String.append_assoc]
      | column name => simp [write, piecesHypothesis, String.append_assoc]
      | bound stem value cast =>
          simp [write, piecesHypothesis, String.append_assoc, Nat.add_assoc, Nat.add_comm 1]

/-- Sequences of pieces with fixed words between them. -/
def separated (separator : String) : List (List Piece) -> List Piece
  | [] => []
  | [pieces] => pieces
  | pieces :: rest => pieces ++ words separator :: separated separator rest

end Piece
end InstanceDirectory
