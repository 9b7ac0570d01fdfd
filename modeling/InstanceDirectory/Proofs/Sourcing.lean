import InstanceDirectory.Proofs.Chaining
import InstanceDirectory.Proofs.Resolution

/-!
# The tables of statements

The source of a select covers some tables.  A chain compiles exactly when the columns of all
its predicates and all its sort columns belong to these tables, and then no other table
occurs in the text.
-/

namespace InstanceDirectory

namespace Piece

/-- The table that a piece mentions. -/
def table? : Piece -> Option Table
  | words _ => none
  | table name => some name
  | column name => some name.table
  | bound _ _ _ => none

/-- The tables that pieces mention. -/
def tables (pieces : List Piece) : List Table :=
  pieces.filterMap table?

@[simp] theorem tables_nil : tables [] = [] := rfl

@[simp] theorem tables_words (text : String) (pieces : List Piece) :
    tables (words text :: pieces) = tables pieces := rfl

@[simp] theorem tables_table (name : Table) (pieces : List Piece) :
    tables (table name :: pieces) = name :: tables pieces := rfl

@[simp] theorem tables_column (name : Column) (pieces : List Piece) :
    tables (column name :: pieces) = name.table :: tables pieces := rfl

@[simp] theorem tables_bound
    (stem : String)
    (value : Value)
    (cast : Cast)
    (pieces : List Piece) :
    tables (bound stem value cast :: pieces) = tables pieces := rfl

@[simp] theorem tables_append (first second : List Piece) :
    tables (first ++ second) = tables first ++ tables second := by
  simp [tables]

/-- Words between sequences of pieces mention no table. -/
theorem tables_separated (separator : String) (sequences : List (List Piece)) :
    tables (separated separator sequences) = sequences.flatMap tables := by
  induction sequences using separated.induct with
  | case1 => rfl
  | case2 pieces => simp [separated]
  | case3 pieces rest nonempty restHypothesis => simp [separated, restHypothesis]

/-- Text depends on a schema only through the tables that it mentions. -/
theorem write_congr
    {schema other : Schema}
    {pieces : List Piece}
    (agree : ∀ table ∈ tables pieces, other.tableText table = schema.tableText table)
    (labels : List String)
    (number : Nat) :
    write other labels number pieces = write schema labels number pieces := by
  induction pieces generalizing number with
  | nil => rfl
  | cons piece pieces piecesHypothesis =>
      cases piece with
      | words text => simp only [write, piecesHypothesis agree]
      | table name =>
          rw [tables_table, List.forall_mem_cons] at agree
          simp only [write, agree.1, piecesHypothesis agree.2]
      | column name =>
          rw [tables_column, List.forall_mem_cons] at agree
          simp only [write, Schema.columnText, agree.1, piecesHypothesis agree.2]
      | bound stem value cast => simp only [write, piecesHypothesis agree]

end Piece

namespace Predicate

/-- The column that a predicate is about. -/
def column? : Predicate -> Option Column
  | equals column _ => some column
  | anyOf column _ _ => some column
  | text column _ _ => some column
  | unstated => none
  | foreign _ => none

/-- A predicate of the repository's own whose condition builds. -/
structure Builds (predicate : Predicate) : Prop where
  own : ∀ failure, predicate ≠ .foreign failure
  stated : ∃ clause, Clause.ofPredicate predicate = .ok clause

/-- A predicate that builds states a condition about its own column. -/
theorem Builds.about
    {predicate : Predicate}
    {clause : Clause}
    (builds : predicate.Builds)
    (stated : Clause.ofPredicate predicate = .ok clause) :
    ∃ column, predicate.column? = some column ∧ clause.column? = some column := by
  cases predicate with
  | equals column value =>
      cases stated
      exact ⟨column, rfl, (Clause.equality_cases column value).2⟩
  | anyOf column values nonempty =>
      cases stated
      exact ⟨column, rfl, rfl⟩
  | text column value comparison =>
      refine ⟨column, rfl, ?_⟩
      cases comparison with
      | equals =>
          cases stated
          exact (Clause.equality_cases column value).2
      | equalsIgnoreCase =>
          cases stated
          rfl
      | startsWith =>
          obtain ⟨pattern, -, same⟩ := bind_eq_ok_iff.mp stated
          cases same
          rfl
      | contains =>
          obtain ⟨pattern, -, same⟩ := bind_eq_ok_iff.mp stated
          cases same
          rfl
  | unstated => cases stated
  | foreign failure => exact absurd rfl (builds.own failure)

end Predicate

/-- A condition about a column can be written, and mentions the table of the column only. -/
theorem Clause.exists_conjunctPieces
    {clause : Clause}
    {column : Column}
    (about : clause.column? = some column) :
    ∃ pieces, clause.conjunctPieces = .ok pieces ∧ Piece.tables pieces = [column.table] := by
  cases clause with
  | foreign failure => cases about
  | isTruth name truth =>
      cases about
      exact ⟨_, rfl, rfl⟩
  | _ =>
      cases about
      exact ⟨_, rfl, rfl⟩

/-- The columns that a step uses: those of its predicates, and its sort column. -/
def Step.columns (step : Step) : List Column :=
  step.predicates.filterMap Predicate.column? ++ step.request.sorting.toList

namespace Chain

/-- The columns that the steps of a chain use. -/
def columns (chain : Chain) : List Column :=
  chain.flatMap Step.columns

/-- Every column that is used anywhere in a chain belongs to the source of a select. -/
def StaysInside (chain : Chain) (selection : Selection) : Prop :=
  ∀ column ∈ chain.columns, column.table ∈ selection.tables

/-- The predicates of a chain are the repository's own and their conditions build. -/
def Builds (chain : Chain) : Prop :=
  ∀ predicate ∈ chain.predicates, predicate.Builds

theorem mem_columns {chain : Chain} {column : Column} :
    column ∈ chain.columns ↔
      column ∈ chain.predicates.filterMap Predicate.column? ∨
        column ∈ chain.ordering.map Prod.fst := by
  simp only [columns, Step.columns, predicates, ordering, Step.sorting?, List.mem_flatMap,
    List.mem_append, List.mem_filterMap, List.mem_map, Option.mem_toList]
  constructor
  · rintro ⟨step, taken, ⟨predicate, applied, about⟩ | sorting⟩
    · exact .inl ⟨predicate, ⟨step, taken, applied⟩, about⟩
    · exact .inr ⟨(column, step.request.ascending), ⟨step, taken, by simp [sorting]⟩, rfl⟩
  · rintro (⟨predicate, ⟨step, taken, applied⟩, about⟩ | ⟨term, ⟨step, taken, sorting⟩, rfl⟩)
    · exact ⟨step, taken, .inl ⟨predicate, applied, about⟩⟩
    · obtain ⟨column, same, rfl⟩ := Option.map_eq_some_iff.mp sorting
      exact ⟨step, taken, .inr same⟩

/-- The conditions of predicates that build are about the columns of the predicates. -/
theorem filterMap_column?
    {predicates : List Predicate}
    {conditions : List Clause}
    (builds : ∀ predicate ∈ predicates, predicate.Builds)
    (stated : States predicates conditions) :
    conditions.filterMap Clause.column? = predicates.filterMap Predicate.column? := by
  induction stated with
  | nil => rfl
  | cons stated _ restHypothesis =>
      rw [List.forall_mem_cons] at builds
      obtain ⟨column, ofPredicate, ofClause⟩ := builds.1.about stated
      rw [List.filterMap_cons_some ofPredicate, List.filterMap_cons_some ofClause,
        restHypothesis builds.2]

/-- Predicates that build state conditions. -/
theorem exists_stated
    {predicates : List Predicate}
    (builds : ∀ predicate ∈ predicates, predicate.Builds) :
    ∃ conditions, States predicates conditions := by
  induction predicates with
  | nil => exact ⟨[], .nil⟩
  | cons predicate predicates predicatesHypothesis =>
      rw [List.forall_mem_cons] at builds
      obtain ⟨clause, stated⟩ := builds.1.stated
      obtain ⟨conditions, rest⟩ := predicatesHypothesis builds.2
      exact ⟨clause :: conditions, .cons stated rest⟩

/-- The conditions of predicates that build can be written. -/
theorem exists_writes
    {predicates : List Predicate}
    {conditions : List Clause}
    (builds : ∀ predicate ∈ predicates, predicate.Builds)
    (stated : States predicates conditions) :
    ∃ conjuncts, Draft.Writes conditions conjuncts := by
  induction stated with
  | nil => exact ⟨[], .nil⟩
  | cons stated _ restHypothesis =>
      rw [List.forall_mem_cons] at builds
      obtain ⟨column, -, ofClause⟩ := builds.1.about stated
      obtain ⟨pieces, first, -⟩ := Clause.exists_conjunctPieces ofClause
      obtain ⟨conjuncts, rest⟩ := restHypothesis builds.2
      exact ⟨pieces :: conjuncts, .cons first rest⟩

/-- Predicates build if their conditions can be written. -/
theorem builds_of_writes
    {predicates : List Predicate}
    {conditions : List Clause}
    {conjuncts : List (List Piece)}
    (stated : States predicates conditions)
    (writes : Draft.Writes conditions conjuncts) :
    ∀ predicate ∈ predicates, predicate.Builds := by
  induction stated generalizing conjuncts with
  | nil => exact nofun
  | @cons predicate clause _ _ stated _ restHypothesis =>
      cases writes with
      | cons written restWritten =>
          have own : ∀ failure, predicate ≠ .foreign failure := by
            rintro failure rfl
            cases stated
            cases written
          exact List.forall_mem_cons.mpr ⟨⟨own, clause, stated⟩, restHypothesis restWritten⟩

/-- The conditions of predicates that build mention the tables of the columns of these. -/
theorem tables_of_writes
    {predicates : List Predicate}
    {conditions : List Clause}
    {conjuncts : List (List Piece)}
    (builds : ∀ predicate ∈ predicates, predicate.Builds)
    (stated : States predicates conditions)
    (writes : Draft.Writes conditions conjuncts) :
    conjuncts.flatMap Piece.tables =
      (predicates.filterMap Predicate.column?).map Column.table := by
  induction stated generalizing conjuncts with
  | nil =>
      cases writes
      rfl
  | cons stated _ restHypothesis =>
      cases writes with
      | @cons _ pieces _ _ written restWritten =>
          rw [List.forall_mem_cons] at builds
          obtain ⟨column, ofPredicate, ofClause⟩ := builds.1.about stated
          obtain ⟨same, isWritten, tables⟩ := Clause.exists_conjunctPieces ofClause
          cases isWritten.symm.trans written
          rw [List.flatMap_cons, tables, restHypothesis builds.2 restWritten,
            List.filterMap_cons_some ofPredicate]
          rfl

end Chain

namespace Draft

/-- The select list and the source mention tables of the source only. -/
theorem tables_headPieces (draft : Draft) :
    ∀ table ∈ Piece.tables draft.headPieces, table ∈ draft.selection.tables := by
  unfold headPieces
  cases draft.selection <;> decide

theorem tables_wherePieces (conjuncts : List (List Piece)) :
    Piece.tables (wherePieces conjuncts) = conjuncts.flatMap Piece.tables := by
  unfold wherePieces
  split
  next isEmpty =>
    rw [List.isEmpty_iff.mp isEmpty]
    rfl
  next => rw [Piece.tables_words, Piece.tables_separated]

theorem tables_orderingPieces (draft : Draft) :
    Piece.tables draft.orderingPieces = (draft.ordering.map Prod.fst).map Column.table := by
  have term (sorting : Column × Bool) :
      Piece.tables [.column sorting.1, .words (if sorting.2 then " ASC" else " DESC")] =
        [sorting.1.table] := rfl
  simp only [orderingPieces]
  split
  next isEmpty =>
    rw [List.isEmpty_iff, List.map_eq_nil_iff] at isEmpty
    rw [isEmpty]
    rfl
  next =>
    rw [Piece.tables_words, Piece.tables_separated, List.flatMap_map]
    simp only [term, List.map_map]
    exact List.map_eq_flatMap.symm

theorem tables_windowPieces (draft : Draft) : Piece.tables draft.windowPieces = [] := by
  unfold windowPieces
  split <;> rfl

end Draft

namespace Chain

variable {chain : Chain} {schema : Schema} {selection : Selection} {conditions : List Clause}

/-- The draft of a chain that builds reads outside its source if the chain leaves it. -/
theorem readsOutsideSource_iff
    (builds : chain.Builds)
    (stated : States chain.predicates conditions) :
    (chain.draft selection conditions).readsOutsideSource = false ↔
      chain.StaysInside selection := by
  have used (column : Column) :
      column ∈ (chain.draft selection conditions).usedColumns ↔ column ∈ chain.columns := by
    rw [mem_columns, ← filterMap_column? builds stated, Draft.usedColumns, List.mem_append]
    rfl
  unfold Draft.readsOutsideSource StaysInside
  rw [List.any_eq_false]
  simp only [used, Bool.not_eq_true', Bool.not_eq_false, List.contains_iff_mem]
  rfl

/-- The pieces of a chain that stays inside its source mention tables of the source only. -/
theorem tables_piecesAround
    {conjuncts : List (List Piece)}
    (builds : chain.Builds)
    (inside : chain.StaysInside selection)
    (stated : States chain.predicates conditions)
    (writes : Draft.Writes conditions conjuncts) :
    ∀ table ∈ Piece.tables ((chain.draft selection conditions).piecesAround conjuncts),
      table ∈ selection.tables := by
  intro table mentioned
  rw [Draft.piecesAround, Piece.tables_append, Piece.tables_append, Piece.tables_append,
    Draft.tables_wherePieces, Draft.tables_orderingPieces, Draft.tables_windowPieces,
    tables_of_writes builds stated writes,
    List.append_nil, List.mem_append, List.mem_append] at mentioned
  rcases mentioned with (head | condition) | ordering
  · exact Draft.tables_headPieces _ table head
  · obtain ⟨column, isUsed, rfl⟩ := List.mem_map.mp condition
    exact inside column (mem_columns.mpr (.inl isUsed))
  · obtain ⟨column, isUsed, rfl⟩ := List.mem_map.mp ordering
    exact inside column (mem_columns.mpr (.inr isUsed))

/--
The statement of a chain mentions no table outside the source: its pieces name tables of the
source only, and it is the same under every schema that calls these tables the same.
-/
structure CompilesInside (chain : Chain) (schema : Schema) (selection : Selection) : Prop where
  mentions : ∃ statement pieces, chain.compile schema selection = .ok statement ∧
    statement.text = Piece.text schema pieces ∧
    ∀ table ∈ Piece.tables pieces, table ∈ selection.tables
  independent : ∀ other : Schema,
    (∀ table ∈ selection.tables, other.tableText table = schema.tableText table) ->
    chain.compile other selection = chain.compile schema selection

/-- A chain that stays inside its source compiles, under every schema to the same pieces. -/
theorem exists_pieces_of_staysInside
    (builds : chain.Builds)
    (inside : chain.StaysInside selection) :
    ∃ pieces, (∀ table ∈ Piece.tables pieces, table ∈ selection.tables) ∧
      ∀ schema, chain.compile schema selection =
        .ok { text := Piece.text schema pieces, arguments := Piece.arguments pieces } := by
  obtain ⟨conditions, stated⟩ := exists_stated builds
  obtain ⟨conjuncts, writes⟩ := exists_writes builds stated
  refine ⟨(chain.draft selection conditions).piecesAround conjuncts,
    tables_piecesAround builds inside stated writes, fun schema => compile_eq_ok_iff.mpr ?_⟩
  have insideSource := (readsOutsideSource_iff builds stated).mpr inside
  exact ⟨conditions, stated, Draft.compile_eq_ok_iff.mpr ⟨insideSource, conjuncts, writes, rfl⟩⟩

theorem compilesInside_of_staysInside
    (schema : Schema)
    (builds : chain.Builds)
    (inside : chain.StaysInside selection) :
    chain.CompilesInside schema selection := by
  obtain ⟨pieces, mentioned, compiles⟩ := exists_pieces_of_staysInside builds inside
  constructor
  · exact ⟨_, pieces, compiles schema, rfl, mentioned⟩
  · intro other agree
    have sameText : Piece.text other pieces = Piece.text schema pieces :=
      Piece.write_congr (fun table isMentioned => agree table (mentioned table isMentioned)) _ _
    rw [compiles other, compiles schema, sameText]

/-- A chain that leaves its source is rejected. -/
theorem compile_of_not_staysInside
    (schema : Schema)
    (builds : chain.Builds)
    (leaves : ¬ chain.StaysInside selection) :
    chain.compile schema selection = .error {
      kind := .query .invalidArgument "QUERY-M9fow" []
      message := "Errors.Query.SQLStatement" } := by
  obtain ⟨conditions, stated⟩ := exists_stated builds
  have outside : (chain.draft selection conditions).readsOutsideSource = true := by
    rw [← readsOutsideSource_iff builds stated, Bool.not_eq_false] at leaves
    exact leaves
  rw [compile_eq, mapM_eq_ok_iff.mpr stated]
  show Draft.compile schema _ = _
  rw [Draft.compile, outside]
  rfl

/-- The chain of a search is its one step. -/
theorem compile_search (search : Search) (schema : Schema) :
    Chain.compile [.search search] schema .page =
      (Repository.searchDraft search >>= Draft.compile schema) := by
  have followed : ({ selection := .page } : Draft).follow [.search search] =
      Repository.searchDraft search := by
    simp [Draft.follow, Draft.take, Repository.searchDraft]
  rw [compile, followed]

end Chain
end InstanceDirectory
