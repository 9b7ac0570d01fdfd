import InstanceDirectory.Statement

/-!
# The meaning of selects

What a select means over the contents of the two tables.  The source and the conditions of a
select are read from the pieces of its text, as standard SQL reads them: a left outer join
keeps an unmatched row of its left table and extends it with nulls, a comparison with null
is unknown, and only rows of which every condition is true are selected.
-/

namespace InstanceDirectory

/-- A value for every column. -/
abbrev Assignment : Type := Column -> Value

namespace Assignment

/-- Null in every column. -/
def absent : Assignment :=
  fun _ => .null

/-- The columns of one table from one assignment, and all others from another one. -/
def beside (table : Table) (row other : Assignment) : Assignment :=
  fun column => if column.table = table then row column else other column

end Assignment

/-- The contents of the read tables; a row is looked at only in the columns of its table. -/
structure Database where
  /-- The rows of the instance table. -/
  instances : List Assignment := []
  /-- The rows of the domain table. -/
  domains : List Assignment := []

/-- The rows of a table. -/
def Database.rows (database : Database) : Table -> List Assignment
  | .instances => database.instances
  | .domains => database.domains

/-- Decide whether two texts are the same; compared with null that is unknown. -/
def Value.sameText? : Value -> Value -> Option Bool
  | .text first, .text second => some (first == second)
  | _, _ => none

theorem Value.sameText?_eq_true {first second : Value} :
    sameText? first second = some true ↔
      ∃ content, first = .text content ∧ second = .text content := by
  constructor
  · intro same
    unfold sameText? at same
    split at same
    · simp only [Option.some.injEq, beq_iff_eq] at same
      subst same
      exact ⟨_, rfl, rfl⟩
    · cases same
  · rintro ⟨content, rfl, rfl⟩
    simp [sameText?]

namespace Piece

/-- The truth of a condition for a row, true, false or unknown; it is an equality of texts. -/
def condition? : List Piece -> Option (Assignment -> Option Bool)
  | [.column name, .words " = ", .bound _ value _] =>
      some fun row => Value.sameText? (row name) value
  | _ => none

/-- The rows of one table with those of another one that satisfy a condition, if any do. -/
def leftOuterJoin
    (database : Database) (left right : Table) (on : Assignment -> Option Bool) :
    List Assignment :=
  (database.rows left).flatMap fun row =>
    match ((database.rows right).map (Assignment.beside left row)).filter
        fun joined => on joined == some true with
    | [] => [Assignment.beside left row .absent]
    | matched => matched

/-- The rows of a source: a table, or a left outer join of two tables on equal texts. -/
def sourceRows? (database : Database) : List Piece -> Option (List Assignment)
  | [.table name] =>
      some ((database.rows name).map fun row => Assignment.beside name row .absent)
  | [.table left, .words " LEFT OUTER JOIN ", .table right, .words " ON ", .column first,
      .words " = ", .column second] =>
      some (leftOuterJoin database left right fun row =>
        Value.sameText? (row first) (row second))
  | _ => none

/-- A row of a join is a joined pair that satisfies the condition, or an extended row. -/
theorem mem_leftOuterJoin
    {database : Database}
    {left right : Table}
    {on : Assignment -> Option Bool}
    {row : Assignment} :
    row ∈ leftOuterJoin database left right on ↔
      ∃ kept ∈ database.rows left,
        (∃ other ∈ database.rows right, row = .beside left kept other ∧ on row = some true) ∨
        ((∀ other ∈ database.rows right, on (.beside left kept other) ≠ some true) ∧
          row = .beside left kept .absent) := by
  rw [leftOuterJoin, List.mem_flatMap]
  refine exists_congr fun kept => and_congr_right fun _ => ?_
  split
  next none =>
    have unmatched : ∀ other ∈ database.rows right,
        on (.beside left kept other) ≠ some true := by
      simpa [List.filter_eq_nil_iff] using none
    rw [List.mem_singleton]
    constructor
    · exact fun extended => .inr ⟨unmatched, extended⟩
    · rintro (⟨other, member, rfl, holds⟩ | ⟨-, extended⟩)
      · exact absurd holds (unmatched other member)
      · exact extended
  next some =>
    rw [List.mem_filter, List.mem_map, beq_iff_eq]
    constructor
    · rintro ⟨⟨other, member, rfl⟩, holds⟩
      exact .inl ⟨other, member, rfl, holds⟩
    · rintro (⟨other, member, rfl, holds⟩ | ⟨unmatched, -⟩)
      · exact ⟨⟨other, member, rfl⟩, holds⟩
      · refine absurd ?_ some
        simpa [List.filter_eq_nil_iff] using unmatched

end Piece

namespace Draft

/-- An item of a select list for one of a number of selected rows. -/
def itemValue (number : Nat) (row : Assignment) : SelectItem -> Value
  | .column column => row column
  | .matchCount => .ofNat number

/-- The rows of the source of which every condition is true. -/
def selected? (database : Database) (draft : Draft) : Option (List Assignment) := do
  let rows ← Piece.sourceRows? database draft.selection.source
  let conditions ← draft.conditions.mapM fun clause => clause.pieces.toOption.bind Piece.condition?
  return rows.filter fun row => conditions.all fun condition => condition row == some true

/-- What the source and the conditions of a draft select, as its select list shows it. -/
def result? (database : Database) (draft : Draft) : Option (List (List Value)) := do
  let rows ← draft.selected? database
  return rows.map fun row => draft.selection.items.map (itemValue rows.length row)

end Draft
end InstanceDirectory
