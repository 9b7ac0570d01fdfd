import InstanceDirectory.Statement.Clause

/-!
# Statements

A draft is a select under construction.  Filtering and paging return a new draft, and
compiling a draft yields statement text with its arguments.  A draft is rejected when a
condition or a sort column reads a table that is not part of the draft's source.
-/

namespace InstanceDirectory

/-- A statement ready to be executed. -/
structure Statement where
  /-- The text with numbered placeholders. -/
  text : String
  /-- The arguments in the order of their placeholders. -/
  arguments : List Value
deriving Inhabited

/-- What a select reads and returns. -/
inductive Selection where
  /-- One instance by its own columns. -/
  | single
  /-- One instance by the domains bound to it. -/
  | byDomain
  /-- A page of instances, each row with the number of all matches. -/
  | page
deriving DecidableEq, Inhabited

/-- An item of a select list. -/
inductive SelectItem where
  | column (column : Column)
  | matchCount
deriving DecidableEq

namespace Selection

/-- The tables that a select's source covers. -/
def tables : Selection -> List Table
  | single => [.instances]
  | byDomain => [.instances, .domains]
  | page => [.instances]

/-- The select list: the projection, followed for a page by the number of matches. -/
def items : Selection -> List SelectItem
  | single => Column.projection.map .column
  | byDomain => Column.projection.map .column
  | page => Column.projection.map .column ++ [.matchCount]

/-- The pieces of a select's source. -/
def source : Selection -> List Piece
  | single => [.table .instances]
  | page => [.table .instances]
  | byDomain =>
      [.table .instances, .words " LEFT OUTER JOIN ", .table .domains, .words " ON ",
        .column .boundInstanceId, .words " = ", .column .id]

end Selection

/-- The pieces of an item of a select list. -/
def SelectItem.pieces : SelectItem -> List Piece
  | column name => [.column name]
  | matchCount => [.words "count(*) OVER () AS count"]

/-- A select under construction. -/
structure Draft where
  /-- What the select reads and returns. -/
  selection : Selection
  /-- The conditions in the order in which they were applied. -/
  conditions : List Clause := []
  /-- The sort columns in the order in which they were applied, with their directions. -/
  ordering : List (Column × Bool) := []
  /-- The number of matches to return at most, when it is set. -/
  limit : Option Nat := none
  /-- The number of matches to skip, when it is set. -/
  offset : Option Nat := none

namespace Draft

/-- Add the condition of a predicate. -/
def applyPredicate (draft : Draft) (predicate : Predicate) : Except Failure Draft := do
  let clause ← Clause.ofPredicate predicate
  return { draft with conditions := draft.conditions ++ [clause] }

/-- Narrow a draft by predicates, in order. -/
def filter (draft : Draft) (predicates : List Predicate) : Except Failure Draft :=
  predicates.foldlM applyPredicate draft

@[simp] theorem filter_nil (draft : Draft) : draft.filter [] = .ok draft := rfl

/--
Apply a page request: bounds that it sets replace earlier ones and a sort column is added
last.
-/
def paginate (draft : Draft) (request : PageRequest) : Draft :=
  { draft with
    limit := request.limit <|> draft.limit
    offset := request.offset <|> draft.offset
    ordering :=
      draft.ordering ++ (request.sorting.map fun column => (column, request.ascending)).toList }

/-- Apply a page request and then the predicates of a search. -/
def search (draft : Draft) (search : Search) : Except Failure Draft :=
  (draft.paginate search.request).filter search.predicates

/-- The sort columns in the order in which they were applied. -/
def sortColumns (draft : Draft) : List Column :=
  draft.ordering.map Prod.fst

/-- Every column that the draft uses besides its select list. -/
def usedColumns (draft : Draft) : List Column :=
  draft.conditions.filterMap Clause.column? ++ draft.sortColumns

/-- Decide whether some column belongs to a table outside the source. -/
def readsOutsideSource (draft : Draft) : Bool :=
  draft.usedColumns.any fun column => !draft.selection.tables.contains column.table

/-- The pieces of the conditions. -/
def conditionPieces (draft : Draft) : Except Failure (List Piece) := do
  let conjuncts ← draft.conditions.mapM Clause.conjunctPieces
  return if conjuncts.isEmpty then []
    else .words " \nWHERE " :: Piece.separated " AND " conjuncts

/-- The pieces of the ordering. -/
def orderingPieces (draft : Draft) : List Piece :=
  let terms := draft.ordering.map fun term =>
    [.column term.1, .words (if term.2 then " ASC" else " DESC")]
  if terms.isEmpty then [] else .words " ORDER BY " :: Piece.separated ", " terms

/-- A bound on the matches as a bound value. -/
def boundPiece (bound : Nat) : Piece :=
  .bound Clause.freeStem (.ofNat bound) { type := Clause.integerType bound }

/-- The pieces of the limit and the offset. -/
def windowPieces (draft : Draft) : List Piece :=
  match draft.limit, draft.offset with
  | none, none => []
  | some limit, none => [.words " \n LIMIT ", boundPiece limit]
  | some limit, some offset =>
      [.words " \n LIMIT ", boundPiece limit, .words " OFFSET ", boundPiece offset]
  | none, some offset => [.words "\n LIMIT ALL OFFSET ", boundPiece offset]

/-- The pieces before the conditions. -/
def headPieces (draft : Draft) : List Piece :=
  .words "SELECT " :: Piece.separated ", " (draft.selection.items.map SelectItem.pieces)
    ++ .words " \nFROM " :: draft.selection.source

/-- All pieces of a draft. -/
def pieces (draft : Draft) : Except Failure (List Piece) := do
  let conditions ← draft.conditionPieces
  return draft.headPieces ++ conditions ++ draft.orderingPieces ++ draft.windowPieces

/-- The failure of a draft that cannot become a statement. -/
def rejected (cause : Option Failure) : Failure :=
  .invalidArgument "Errors.Query.SQLStatement" "QUERY-M9fow" [] cause

/-- Report a condition that cannot be written; a failure of another kind passes through. -/
def report (failure : Failure) : Failure :=
  if failure.isRender then rejected (some failure) else failure

/-- Compile a draft into a statement against a schema. -/
def compile (schema : Schema) (draft : Draft) : Except Failure Statement := do
  if draft.readsOutsideSource then .error (rejected none)
  else
    let pieces ← draft.pieces.mapError report
    return { text := Piece.text schema pieces, arguments := Piece.arguments pieces }

end Draft
end InstanceDirectory
