import InstanceDirectory.Proofs.Configuring
import InstanceDirectory.Proofs.Numbering
import InstanceDirectory.Proofs.Spelling

/-!
# Statements name what is configured

The names in the text of a statement, read by the rules of the store, are those of the
configured tables and of the columns, in the order in which the statement mentions them.  The
exception are names that lose a line break when they are read.  The text of a source tells the
configured names in any case.
-/

namespace InstanceDirectory

open Identifier

/-! ## The names of tables and columns -/

/-- The qualified name of a table; a qualifier that is absent or empty does not count. -/
def Table.path (qualifier : Option String) (name : Table -> String) (table : Table) :
    List String :=
  (qualifier.filter fun qualifier => !qualifier.isEmpty).toList ++ [name table]

/-- The qualified name of a column, given those of tables. -/
def Column.path (ofTable : Table -> List String) (column : Column) : List String :=
  ofTable column.table ++ [column.name]

namespace Schema

/-- The qualified name of a table. -/
def path (schema : Schema) (table : Table) : List String :=
  table.path schema.schemaName schema.tableName

theorem path_ne_nil (schema : Schema) (table : Table) : schema.path table ≠ [] := by
  simp [path, Table.path]

theorem toList_tableText (schema : Schema) (table : Table) :
    (schema.tableText table).toList = dotted (schema.path table) := by
  unfold tableText path Table.path
  cases schema.schemaName with
  | none => rfl
  | some qualifier =>
      cases empty : qualifier.isEmpty with
      | true =>
          simp only [Option.filter_some, empty, if_true]
          rfl
      | false =>
          simp only [Option.filter_some, empty, Bool.false_eq_true, if_false, String.toList_append]
          rw [List.append_assoc]
          rfl

theorem toList_columnText_eq_dotted (schema : Schema) (column : Column) :
    (schema.columnText column).toList = dotted (column.path schema.path) := by
  rw [toList_columnText, toList_tableText, Column.path,
    dotted_append_singleton (schema.path_ne_nil _)]

end Schema

/-- The names of columns are read as they are written. -/
theorem Column.name_keeps (column : Column) : column.name ≠ "" ∧ ¬ LosesBreak column.name := by
  cases column <;> decide

/-! ## Pieces of text and the names between them -/

/-- What is known of a stretch of text: its words, or that there is a name. -/
inductive Slot where
  | words (text : String)
  | name
deriving DecidableEq

/-- The names in a text where slots say that there are names. -/
def Slot.names? : List Slot -> List Char -> Option (List (List String))
  | [], [] => some []
  | [], _ :: _ => none
  | words text :: slots, chars =>
      if text.toList.isPrefixOf chars then names? slots (chars.drop text.toList.length) else none
  | name :: slots, chars =>
      (qualified? chars).bind fun found => (names? slots found.2).map (found.1 :: ·)

namespace Piece

/-- The slots of pieces; the first placeholder has the given number. -/
def slots : Nat -> List Piece -> List Slot
  | _, [] => []
  | number, words text :: pieces => .words text :: slots number pieces
  | number, table _ :: pieces => .name :: slots number pieces
  | number, column _ :: pieces => .name :: slots number pieces
  | number, bound _ _ cast :: pieces =>
      .words (placeholder number cast) :: slots (number + 1) pieces

/-- The name that a piece is, given those of tables. -/
def path? (ofTable : Table -> List String) : Piece -> Option (List String)
  | words _ => none
  | table name => some (ofTable name)
  | column name => some (name.path ofTable)
  | bound _ _ _ => none

/-- The names that pieces are, in order. -/
def paths (ofTable : Table -> List String) (pieces : List Piece) : List (List String) :=
  pieces.filterMap (path? ofTable)

/-- A character that ends a qualified name. -/
def endsName (c : Char) : Bool :=
  !canContinue c && c != '"' && c != '.'

/-- Pieces start with words that end a name before them, if there are any. -/
def isApart : List Piece -> Bool
  | [] => true
  | words text :: _ => text.toList.head?.any endsName
  | _ => false

/-- Every name among pieces is ended by what comes after it. -/
def isSpaced : List Piece -> Bool
  | [] => true
  | table _ :: pieces => isApart pieces && isSpaced pieces
  | column _ :: pieces => isApart pieces && isSpaced pieces
  | words _ :: pieces => isSpaced pieces
  | bound _ _ _ :: pieces => isSpaced pieces

theorem isApart_append
    {first second : List Piece}
    (firstApart : isApart first = true)
    (secondApart : isApart second = true) :
    isApart (first ++ second) = true := by
  cases first with
  | nil => exact secondApart
  | cons piece pieces =>
      cases piece with
      | words text => exact firstApart
      | _ => cases firstApart

theorem isSpaced_append
    {first second : List Piece}
    (firstSpaced : isSpaced first = true)
    (secondSpaced : isSpaced second = true)
    (apart : isApart second = true) :
    isSpaced (first ++ second) = true := by
  induction first with
  | nil => exact secondSpaced
  | cons piece pieces piecesHypothesis =>
      cases piece with
      | words text => exact piecesHypothesis firstSpaced
      | bound stem value cast => exact piecesHypothesis firstSpaced
      | table name =>
          simp only [isSpaced, Bool.and_eq_true, List.cons_append] at firstSpaced ⊢
          exact ⟨isApart_append firstSpaced.1 apart, piecesHypothesis firstSpaced.2⟩
      | column name =>
          simp only [isSpaced, Bool.and_eq_true, List.cons_append] at firstSpaced ⊢
          exact ⟨isApart_append firstSpaced.1 apart, piecesHypothesis firstSpaced.2⟩

theorem isSpaced_separated
    {separator : String}
    {sequences : List (List Piece)}
    (apart : isApart [words separator] = true)
    (spaced : ∀ pieces ∈ sequences, isSpaced pieces = true) :
    isSpaced (separated separator sequences) = true := by
  induction sequences using separated.induct with
  | case1 => rfl
  | case2 pieces => exact spaced pieces List.mem_cons_self
  | case3 pieces rest nonempty restHypothesis =>
      rw [List.forall_mem_cons] at spaced
      rw [separated]
      · exact isSpaced_append spaced.1 (restHypothesis spaced.2) apart
      · exact nonempty

section Reading

variable {schema : Schema}

/-- Text that starts with pieces that are apart ends a name before it. -/
theorem endsName_write
    {pieces : List Piece}
    (apart : isApart pieces = true)
    (number : Nat) :
    EndsName (write schema [] number pieces).toList := by
  cases pieces with
  | nil => exact ⟨nofun, nofun⟩
  | cons piece pieces =>
      cases piece with
      | words text =>
          obtain ⟨first, isFirst, ends⟩ := (Option.any_eq_true _ _).mp apart
          simp only [endsName, Bool.and_eq_true, Bool.not_eq_true', bne_iff_ne] at ends
          have starts : (write schema [] number (words text :: pieces)).toList.head? =
              some first := by
            rw [write, String.toList_append, List.head?_append, isFirst]
            rfl
          refine ⟨fun c isNext => ?_, fun isDot => ?_⟩
          · rw [starts] at isNext
            cases isNext
            exact ends.1
          · rw [starts] at isDot
            cases isDot
            exact ends.2 rfl
      | _ => cases apart

/-- The slots of a name are read by reading the name and going on after it. -/
theorem names?_name_eq_some_iff
    {path : List String}
    {paths : List (List String)}
    {slots : List Slot}
    {rest : List Char}
    (isName : path ≠ [])
    (nonempty : ∀ name ∈ path, name ≠ "")
    (ends : EndsName rest) :
    Slot.names? (.name :: slots) (dotted path ++ rest) = some (path :: paths) ↔
      (∀ name ∈ path, ¬ LosesBreak name) ∧ Slot.names? slots rest = some paths := by
  rw [Slot.names?, Option.bind_eq_some_iff]
  constructor
  · rintro ⟨⟨found, left⟩, reads, goesOn⟩
    obtain ⟨others, othersRead, same⟩ := Option.map_eq_some_iff.mp goesOn
    obtain ⟨rfl, rfl⟩ := List.cons.inj same
    have keeps := keeps_of_parts?_dotted nonempty reads
    rw [qualified?_dotted isName nonempty keeps ends] at reads
    cases reads
    exact ⟨keeps, othersRead⟩
  · rintro ⟨keeps, othersRead⟩
    exact ⟨_, qualified?_dotted isName nonempty keeps ends, by rw [othersRead]; rfl⟩

/-- Without labels a name is written as it is. -/
theorem nameText_nil (name : String) : nameText [] name = name := by
  rw [nameText, numberMarks_of_not_isMarked, String.ofList_toList]
  rintro ⟨label, present, -⟩
  cases present

/-- Words are read as they are. -/
theorem names?_words (text : String) (slots : List Slot) (rest : List Char) :
    Slot.names? (.words text :: slots) (text.toList ++ rest) = Slot.names? slots rest := by
  simp [Slot.names?]

/--
The names of spaced pieces are read in their order, exactly when none of them loses a line
break.
-/
theorem names?_write_iff
    {pieces : List Piece}
    (nonempty : ∀ path ∈ paths schema.path pieces, ∀ name ∈ path, name ≠ "")
    (spaced : isSpaced pieces = true)
    (number : Nat) :
    Slot.names? (slots number pieces) (write schema [] number pieces).toList =
        some (paths schema.path pieces) ↔
      ∀ path ∈ paths schema.path pieces, ∀ name ∈ path, ¬ LosesBreak name := by
  induction pieces generalizing number with
  | nil => simp [slots, write, paths, Slot.names?]
  | cons piece pieces piecesHypothesis =>
      cases piece with
      | words text =>
          rw [slots, write, String.toList_append, names?_words]
          exact piecesHypothesis nonempty spaced number
      | bound stem value cast =>
          rw [slots, write, String.toList_append, names?_words]
          exact piecesHypothesis nonempty spaced (number + 1)
      | table name =>
          simp only [isSpaced, Bool.and_eq_true] at spaced
          have first : paths schema.path (table name :: pieces) =
              schema.path name :: paths schema.path pieces := rfl
          rw [first, List.forall_mem_cons] at nonempty
          rw [slots, write, String.toList_append, nameText_nil, schema.toList_tableText, first,
            List.forall_mem_cons,
            names?_name_eq_some_iff (schema.path_ne_nil name) nonempty.1
              (endsName_write spaced.1 _)]
          exact and_congr_right' (piecesHypothesis nonempty.2 spaced.2 number)
      | column name =>
          simp only [isSpaced, Bool.and_eq_true] at spaced
          have first : paths schema.path (column name :: pieces) =
              name.path schema.path :: paths schema.path pieces := rfl
          have isName : name.path schema.path ≠ [] := by simp [Column.path]
          rw [first, List.forall_mem_cons] at nonempty
          rw [slots, write, String.toList_append, nameText_nil, schema.toList_columnText_eq_dotted,
            first, List.forall_mem_cons,
            names?_name_eq_some_iff isName nonempty.1 (endsName_write spaced.1 _)]
          exact and_congr_right' (piecesHypothesis nonempty.2 spaced.2 number)

end Reading
end Piece

/-! ## The pieces of statements -/

theorem Clause.isSpaced_of_conjunctPieces
    {clause : Clause}
    {pieces : List Piece}
    (written : clause.conjunctPieces = .ok pieces) :
    Piece.isSpaced pieces = true := by
  cases clause with
  | foreign failure => cases written
  | isTruth column truth =>
      cases written
      cases truth <;> rfl
  | _ =>
      cases written
      rfl

namespace Draft

theorem isSpaced_headPieces (draft : Draft) : Piece.isSpaced draft.headPieces = true := by
  unfold headPieces
  cases draft.selection <;> rfl

theorem isSpaced_wherePieces
    {conditions : List Clause}
    {conjuncts : List (List Piece)}
    (writes : Writes conditions conjuncts) :
    Piece.isSpaced (wherePieces conjuncts) = true ∧
      Piece.isApart (wherePieces conjuncts) = true := by
  have each : ∀ pieces ∈ conjuncts, Piece.isSpaced pieces = true := by
    intro pieces present
    induction writes with
    | nil => cases present
    | cons written _ restHypothesis =>
        rcases List.mem_cons.mp present with rfl | later
        · exact Clause.isSpaced_of_conjunctPieces written
        · exact restHypothesis later
  unfold wherePieces
  split
  · exact ⟨rfl, rfl⟩
  · exact ⟨Piece.isSpaced_separated rfl each, rfl⟩

theorem isSpaced_orderingPieces (draft : Draft) :
    Piece.isSpaced draft.orderingPieces = true ∧ Piece.isApart draft.orderingPieces = true := by
  unfold orderingPieces
  simp only
  split
  · exact ⟨rfl, rfl⟩
  · refine ⟨Piece.isSpaced_separated rfl ?_, rfl⟩
    intro pieces present
    obtain ⟨⟨column, ascending⟩, -, rfl⟩ := List.mem_map.mp present
    cases ascending with
    | true => exact (rfl : Piece.isSpaced [.column column, .words " ASC"] = true)
    | false => exact (rfl : Piece.isSpaced [.column column, .words " DESC"] = true)

theorem isSpaced_windowPieces (draft : Draft) :
    Piece.isSpaced draft.windowPieces = true ∧ Piece.isApart draft.windowPieces = true := by
  unfold windowPieces
  cases draft.limit <;> cases draft.offset <;> exact ⟨rfl, rfl⟩

theorem isSpaced_piecesAround
    {draft : Draft}
    {conjuncts : List (List Piece)}
    (writes : Writes draft.conditions conjuncts) :
    Piece.isSpaced (draft.piecesAround conjuncts) = true := by
  obtain ⟨whereSpaced, whereApart⟩ := isSpaced_wherePieces writes
  obtain ⟨orderingSpaced, orderingApart⟩ := draft.isSpaced_orderingPieces
  obtain ⟨windowSpaced, windowApart⟩ := draft.isSpaced_windowPieces
  exact Piece.isSpaced_append (Piece.isSpaced_append
    (Piece.isSpaced_append draft.isSpaced_headPieces whereSpaced whereApart)
    orderingSpaced orderingApart) windowSpaced windowApart

end Draft

/-! ## Configured names -/

namespace Settings

/-- What is accepted in a field is its default or was read. -/
theorem of_field_eq_ok
    {source : Source}
    {envStem name : String}
    {fallback content : α}
    {read : Value -> Except Complaint α}
    (holds : α -> Prop)
    (accepted : field source envStem name fallback read = .ok content)
    (ofFallback : holds fallback)
    (ofRead : ∀ value answer, read value = .ok answer -> holds answer) :
    holds content := by
  unfold field at accepted
  cases raw : source.raw envStem name with
  | none =>
      rw [raw] at accepted
      cases accepted
      exact ofFallback
  | some value =>
      simp only [raw] at accepted
      cases answered : read value with
      | error complaint =>
          rw [answered] at accepted
          cases accepted
      | ok answer =>
          rw [answered] at accepted
          cases accepted
          exact ofRead value content answered

end Settings

namespace QuerySettings

open Settings

/-- The configured name of a table. -/
def nameOf (settings : QuerySettings) : Table -> String
  | .instances => settings.instanceTable
  | .domains => settings.domainTable

/-- The configured qualified name of a table. -/
def path (settings : QuerySettings) (table : Table) : List String :=
  table.path settings.projectionSchema settings.nameOf

variable {source : Source} {settings : QuerySettings} {schema : Schema}

theorem ne_empty_of_tableName
    (value : Value)
    (answer : String)
    (accepted : tableName value = .ok answer) :
    answer ≠ "" := by
  unfold tableName at accepted
  cases read : Lax.text value with
  | error complaint =>
      rw [read] at accepted
      cases accepted
  | ok content =>
      rw [read] at accepted
      rintro rfl
      have kept : Lax.nonempty content = .ok "" := accepted
      unfold Lax.nonempty at kept
      split at kept
      next => cases kept
      next nonempty =>
        cases kept
        exact nonempty rfl

/-- Accepted tables have names. -/
theorem nameOf_ne_empty
    (loaded : load source = .ok settings)
    (table : Table) :
    settings.nameOf table ≠ "" := by
  unfold load at loaded
  simp only [Checked.apply_eq_ok_iff] at loaded
  obtain ⟨_, _, ⟨_, domains, ⟨_, instances, ⟨_, _, ⟨⟩, -, rfl⟩, isInstances, rfl⟩, isDomains, rfl⟩,
    -, rfl⟩ := loaded
  have instancesNamed : instances ≠ "" :=
    of_field_eq_ok (· ≠ "") isInstances (by decide) ne_empty_of_tableName
  have domainsNamed : domains ≠ "" :=
    of_field_eq_ok (· ≠ "") isDomains (by decide) ne_empty_of_tableName
  cases table with
  | instances => exact instancesNamed
  | domains => exact domainsNamed

/-- The names of a schema are those that are configured. -/
theorem path_of_schema (built : settings.schema = .ok schema) : schema.path = settings.path := by
  unfold QuerySettings.schema Schema.build at built
  split at built
  · cases built
    funext table
    cases table <;> rfl
  · cases built

/-- No part of a configured name is empty. -/
theorem ne_empty_of_mem_path
    (loaded : load source = .ok settings)
    {table : Table}
    {name : String}
    (isPart : name ∈ settings.path table) :
    name ≠ "" := by
  rw [path, Table.path, List.mem_append, List.mem_singleton, Option.mem_toList,
    Option.filter_eq_some_iff] at isPart
  rcases isPart with ⟨-, nonempty⟩ | rfl
  · rintro rfl
    cases nonempty
  · exact nameOf_ne_empty loaded table

end QuerySettings

namespace Selection

/-- The names in the source of a select, in order. -/
def sourceNames (ofTable : Table -> List String) : Selection -> List (List String)
  | single => [ofTable .instances]
  | page => [ofTable .instances]
  | byDomain =>
      [ofTable .instances, ofTable .domains, Column.boundInstanceId.path ofTable,
        Column.id.path ofTable]

/-- The source of a select in statement text. -/
def sourceText (schema : Schema) : Selection -> String
  | single => schema.tableText .instances
  | page => schema.tableText .instances
  | byDomain => schema.joinText

end Selection

/-! ## Reading statements -/

namespace Chain

variable {chain : Chain} {schema : Schema} {selection : Selection} {statement : Statement}

/-- A statement that leaves names alone is written in spaced pieces without labels. -/
theorem exists_spaced
    (compiled : chain.compile schema selection = .ok statement)
    (leaves : chain.LeavesNames schema selection) :
    ∃ draft pieces, ({ selection } : Draft).follow chain = .ok draft ∧
      draft.pieces = .ok pieces ∧ Piece.isSpaced pieces = true ∧
      statement.text = Piece.write schema [] 1 pieces ∧
      (∀ table ∈ Piece.tables pieces, table ∈ selection.tables) ∧
      ∀ table ∈ selection.tables, .table table ∈ pieces := by
  obtain ⟨conditions, conjuncts, stated, writes, layout, inside, mentioned, rfl⟩ :=
    exists_conjuncts compiled
  have drafted : ({ selection } : Draft).follow chain = .ok (chain.draft selection conditions) := by
    rw [follow_eq, mapM_eq_ok_iff.mpr stated]
    rfl
  have written : (chain.draft selection conditions).pieces =
      .ok ((chain.draft selection conditions).piecesAround conjuncts) := by
    rw [Draft.pieces_eq]
    exact congrArg (Except.map _) (mapM_eq_ok_iff.mpr writes)
  have sameLabels : Piece.labels ((chain.draft selection conditions).piecesAround conjuncts) =
      chain.labels := by
    rw [Piece.labels, layout.stems]
    rfl
  have noDot := Piece.dot_not_mem_mark layout.isPlain
  refine ⟨_, _, drafted, written, Draft.isSpaced_piecesAround writes, ?_, inside, mentioned⟩
  rw [sameLabels] at noDot
  rw [Piece.text, sameLabels]
  exact Piece.write_of_unmarked noDot
    (fun table isMentioned => leaves table (inside table isMentioned)) 1

end Chain

namespace Piece

/-- The names of pieces are those of the tables that they mention, and of columns. -/
theorem forall_mem_paths_iff
    {holds : String -> Prop}
    {ofTable : Table -> List String}
    {pieces : List Piece}
    (ofColumn : ∀ column : Column, holds column.name) :
    (∀ path ∈ paths ofTable pieces, ∀ name ∈ path, holds name) ↔
      ∀ table ∈ tables pieces, ∀ name ∈ ofTable table, holds name := by
  induction pieces with
  | nil => simp [paths]
  | cons piece pieces piecesHypothesis =>
      cases piece with
      | words text => exact piecesHypothesis
      | bound stem value cast => exact piecesHypothesis
      | table name =>
          have first : paths ofTable (table name :: pieces) =
              ofTable name :: paths ofTable pieces := rfl
          rw [first, tables_table, List.forall_mem_cons, List.forall_mem_cons, piecesHypothesis]
      | column name =>
          have first : paths ofTable (column name :: pieces) =
              name.path ofTable :: paths ofTable pieces := rfl
          have ofPath : (∀ part ∈ name.path ofTable, holds part) ↔
              ∀ part ∈ ofTable name.table, holds part := by
            rw [Column.path, List.forall_mem_append]
            exact and_iff_left (by simpa using ofColumn name)
          rw [first, tables_column, List.forall_mem_cons, List.forall_mem_cons, piecesHypothesis,
            ofPath]

end Piece

/-! ## Telling configurations apart -/

theorem Table.path_inj
    {table : Table}
    {qualifier other : Option String}
    {name otherName : Table -> String}
    (same : table.path qualifier name = table.path other otherName) :
    (qualifier.filter fun qualifier => !qualifier.isEmpty) =
        (other.filter fun qualifier => !qualifier.isEmpty) ∧
      name table = otherName table := by
  unfold Table.path at same
  obtain ⟨sameQualifier, sameName⟩ := List.append_inj' same rfl
  exact ⟨by simpa using congrArg List.head? sameQualifier, (List.cons.inj sameName).1⟩

/-- The text of a table tells its qualified name, whatever delimits it but a dot. -/
theorem Schema.path_eq_of_append
    {schema other : Schema}
    {table : Table}
    {rest otherRest : List Char}
    (delimits : ∀ c, rest.head? = some c -> c = ' ')
    (otherDelimits : ∀ c, otherRest.head? = some c -> c = ' ')
    (same : (schema.tableText table).toList ++ rest = (other.tableText table).toList ++ otherRest) :
    schema.path table = other.path table ∧ rest = otherRest := by
  have ends {rest : List Char} (blank : ∀ c, rest.head? = some c -> c = ' ') :
      Delimits rest ∧ rest.head? ≠ some '.' := by
    refine ⟨fun c isNext => ?_, fun isDot => absurd (blank _ isDot) (by decide)⟩
    rw [blank c isNext]
    decide
  rw [toList_tableText, toList_tableText] at same
  exact dotted_append_inj (schema.path_ne_nil table) (other.path_ne_nil table) (ends delimits).1
    (ends otherDelimits).1 (ends delimits).2 (ends otherDelimits).2 same

theorem Schema.toList_joinText (schema : Schema) :
    ∃ rest, schema.joinText.toList = (schema.tableText .instances).toList ++
      " LEFT OUTER JOIN ".toList ++ ((schema.tableText .domains).toList ++ " ON ".toList ++ rest) :=
  ⟨(schema.columnText .boundInstanceId).toList ++ " = ".toList ++ (schema.columnText .id).toList,
    by simp only [joinText, String.toList_append, List.append_assoc]⟩

/-- The text of a source tells the names of the tables that it covers. -/
theorem Selection.path_eq_of_sourceText
    {selection : Selection}
    {schema other : Schema}
    (same : selection.sourceText schema = selection.sourceText other) :
    ∀ table ∈ selection.tables, schema.path table = other.path table := by
  have alone (same : schema.tableText .instances = other.tableText .instances) :
      schema.path .instances = other.path .instances :=
    (Schema.path_eq_of_append (by simp) (by simp)
      (congrArg (fun text => String.toList text ++ []) same)).1
  intro table isTable
  cases selection with
  | single =>
      cases List.mem_singleton.mp isTable
      exact alone same
  | page =>
      cases List.mem_singleton.mp isTable
      exact alone same
  | byDomain =>
      obtain ⟨rest, joins⟩ := schema.toList_joinText
      obtain ⟨otherRest, otherJoins⟩ := other.toList_joinText
      have sameText : schema.joinText.toList = other.joinText.toList := congrArg String.toList same
      have afterTable (words : String) (starts : words.toList.head? = some ' ') (rest : List Char) :
          ∀ c, (words.toList ++ rest).head? = some c -> c = ' ' := by
        intro c isNext
        rw [List.head?_append, starts] at isNext
        exact (Option.some.inj isNext).symm
      rw [joins, otherJoins] at sameText
      simp only [List.append_assoc] at sameText
      obtain ⟨sameInstances, sameRest⟩ := Schema.path_eq_of_append
        (afterTable " LEFT OUTER JOIN " rfl _) (afterTable " LEFT OUTER JOIN " rfl _) sameText
      obtain ⟨sameDomains, -⟩ := Schema.path_eq_of_append
        (afterTable " ON " rfl _) (afterTable " ON " rfl _) (List.append_cancel_left sameRest)
      cases table with
      | instances => exact sameInstances
      | domains => exact sameDomains

/-! ## Bare selects -/

namespace Draft

variable (selection : Selection)

/-- The pieces of a bare select are its select list and its source. -/
theorem piecesAround_bare :
    ({ selection } : Draft).piecesAround [] = ({ selection } : Draft).headPieces := by
  simp [piecesAround, wherePieces, orderingPieces, windowPieces]

/-- The names in a bare select are those of the projected columns and those in its source. -/
theorem paths_headPieces (ofTable : Table -> List String) :
    Piece.paths ofTable ({ selection } : Draft).headPieces =
      Column.projection.map (Column.path ofTable) ++ selection.sourceNames ofTable := by
  cases selection <;> rfl

/-- The pieces of a source are written as its text. -/
theorem write_source (schema : Schema) (number : Nat) :
    Piece.write schema [] number selection.source = selection.sourceText schema := by
  cases selection <;>
    simp [Selection.source, Selection.sourceText, Piece.write, Piece.nameText_nil,
      Schema.joinText, String.append_assoc]

/-- A bare select compiles into its select list and its source, and nothing in it is a mark. -/
theorem exists_compile_bare (schema : Schema) :
    ∃ statement listed, ({ selection } : Draft).compile schema = .ok statement ∧
      statement.text = Piece.write schema [] 1 ({ selection } : Draft).headPieces ∧
      statement.text = listed ++ " \nFROM " ++ selection.sourceText schema := by
  have unlabelled : Piece.labels ({ selection } : Draft).headPieces = [] := by
    cases selection <;> rfl
  have written : Piece.write schema [] 1 ({ selection } : Draft).headPieces =
      Piece.write schema [] 1
          (.words "SELECT " :: Piece.separated ", " (selection.items.map SelectItem.pieces))
        ++ " \nFROM " ++ selection.sourceText schema := by
    rw [headPieces, Piece.write_append]
    simp only [Piece.write, write_source, String.append_assoc]
  have isText : Piece.text schema (({ selection } : Draft).piecesAround []) =
      Piece.write schema [] 1 ({ selection } : Draft).headPieces := by
    rw [piecesAround_bare, Piece.text, unlabelled]
  exact ⟨_, _, compile_eq_ok_iff.mpr ⟨rfl, [], .nil, rfl⟩, isText, isText.trans written⟩

end Draft

/-! ## What the store reads -/

namespace QuerySettings

variable {source : Settings.Source} {settings : QuerySettings} {schema : Schema}

/-- No name of a table in the source of a select loses a line break when it is read. -/
def KeepsNames (settings : QuerySettings) (selection : Selection) : Prop :=
  ∀ table ∈ selection.tables, ∀ name ∈ settings.path table, ¬ LosesBreak name

/-- The names of pieces are never empty, whatever is configured. -/
theorem ne_empty_of_mem_paths
    (loaded : load source = .ok settings)
    (pieces : List Piece) :
    ∀ path ∈ Piece.paths settings.path pieces, ∀ name ∈ path, name ≠ "" :=
  (Piece.forall_mem_paths_iff fun column => column.name_keeps.1).mpr
    fun _ _ _ isPart => ne_empty_of_mem_path loaded isPart

/-- Spaced pieces over the tables of a source are read as their names when those are kept. -/
theorem names?_iff_keepsNames
    (loaded : load source = .ok settings)
    (built : settings.schema = .ok schema)
    {selection : Selection}
    {pieces : List Piece}
    (spaced : Piece.isSpaced pieces = true)
    (covers : ∀ table, table ∈ Piece.tables pieces ↔ table ∈ selection.tables) :
    Slot.names? (Piece.slots 1 pieces) (Piece.write schema [] 1 pieces).toList =
        some (Piece.paths settings.path pieces) ↔
      settings.KeepsNames selection := by
  have nonempty := ne_empty_of_mem_paths loaded pieces
  rw [← path_of_schema built] at nonempty ⊢
  rw [Piece.names?_write_iff nonempty spaced 1,
    Piece.forall_mem_paths_iff fun column => column.name_keeps.2, path_of_schema built]
  simp only [covers, KeepsNames]

/--
The names in a statement are read as those of the configured tables and of columns, exactly
when no name of a table in its source loses a line break; and its source alone tells what the
tables in it are called.
-/
theorem names_read_back
    (loaded : load source = .ok settings)
    (built : settings.schema = .ok schema)
    (selection : Selection) :
    (∀ chain statement, Chain.compile chain schema selection = .ok statement ->
      chain.LeavesNames schema selection ->
      ∃ draft pieces, ({ selection } : Draft).follow chain = .ok draft ∧
        draft.pieces = .ok pieces ∧
        (Slot.names? (Piece.slots 1 pieces) statement.text.toList =
            some (Piece.paths settings.path pieces) ↔
          settings.KeepsNames selection)) ∧
    (∃ statement listed, Chain.compile [] schema selection = .ok statement ∧
      statement.text = listed ++ " \nFROM " ++ selection.sourceText schema ∧
      (Slot.names? (Piece.slots 1 ({ selection } : Draft).headPieces) statement.text.toList =
          some (Column.projection.map (Column.path settings.path) ++
            selection.sourceNames settings.path) ↔
        settings.KeepsNames selection) ∧
      (Slot.names? (Piece.slots 1 selection.source) (selection.sourceText schema).toList =
          some (selection.sourceNames settings.path) ↔
        settings.KeepsNames selection)) ∧
    ∀ (other : QuerySettings) (otherSchema : Schema), other.schema = .ok otherSchema ->
      selection.sourceText schema = selection.sourceText otherSchema ->
      ∀ table ∈ selection.tables,
        (settings.projectionSchema.filter fun qualifier => !qualifier.isEmpty) =
            (other.projectionSchema.filter fun qualifier => !qualifier.isEmpty) ∧
          settings.nameOf table = other.nameOf table := by
  refine ⟨?chains, ?bare, ?apart⟩
  case chains =>
    intro chain statement compiled leaves
    obtain ⟨draft, pieces, drafted, written, spaced, sameText, inside, mentioned⟩ :=
      Chain.exists_spaced compiled leaves
    refine ⟨draft, pieces, drafted, written, ?_⟩
    rw [sameText]
    refine names?_iff_keepsNames loaded built spaced fun table => ⟨inside table, fun isTable => ?_⟩
    exact List.mem_filterMap.mpr ⟨_, mentioned table isTable, rfl⟩
  case bare =>
    obtain ⟨statement, listed, compiled, isText, endsInSource⟩ :=
      Draft.exists_compile_bare selection schema
    refine ⟨statement, listed, compiled, endsInSource, ?_, ?_⟩
    · rw [isText, ← Draft.paths_headPieces]
      refine names?_iff_keepsNames loaded built (Draft.isSpaced_headPieces _) fun table => ?_
      cases selection <;> cases table <;> decide
    · have spaced : Piece.isSpaced selection.source = true := by cases selection <;> rfl
      have isPaths : Piece.paths settings.path selection.source =
          selection.sourceNames settings.path := by
        cases selection <;> rfl
      rw [← Draft.write_source selection schema 1, ← isPaths]
      refine names?_iff_keepsNames loaded built spaced fun table => ?_
      cases selection <;> cases table <;> decide
  case apart =>
    intro other otherSchema otherBuilt sameText table isTable
    have samePath := Selection.path_eq_of_sourceText sameText table isTable
    rw [path_of_schema built, path_of_schema otherBuilt] at samePath
    exact Table.path_inj samePath

/-- Only the instance table is configured. -/
def instancesOnly (name : String) : Settings.Source where
  given := [("instance_table", .text name)]

/-- A name in quotes is read as it is configured, with its line break. -/
theorem names_read_back_quoted :
    ∃ settings schema,
      load (instancesOnly "Cell\".\n") = .ok settings ∧ settings.schema = .ok schema ∧
      Selection.single.sourceText schema = "projections.\"Cell\"\".\n\"" ∧
      Slot.names? (Piece.slots 1 Selection.single.source)
          (Selection.single.sourceText schema).toList =
        some [["projections", "Cell\".\n"]] := by
  have loaded : load (instancesOnly "Cell\".\n") = .ok { instanceTable := "Cell\".\n" } := rfl
  refine ⟨_, _, loaded, rfl, by decide, ?_⟩
  obtain ⟨-, ⟨_, _, -, -, -, reads⟩, -⟩ := names_read_back loaded rfl .single
  refine reads.mpr fun table isTable => ?_
  cases List.mem_singleton.mp isTable
  decide

/-- A name that ends in a line break is written without quotes, and read without the break. -/
theorem names_read_back_broken :
    ∃ settings schema statement listed,
      load (instancesOnly "instances\n") = .ok settings ∧ settings.schema = .ok schema ∧
      Chain.compile [] schema .single = .ok statement ∧
      statement.text = listed ++ " \nFROM " ++ "projections.instances\n" ∧
      settings.path .instances = ["projections", "instances\n"] ∧
      qualified? "projections.instances\n".toList =
        some (["projections", "instances"], ['\n']) := by
  have loaded : load (instancesOnly "instances\n") = .ok { instanceTable := "instances\n" } := rfl
  obtain ⟨statement, listed, compiled, -, isText⟩ := Draft.exists_compile_bare .single
    { Schema.standard with instanceTable := "instances\n", distinctTables := by decide }
  exact ⟨_, _, statement, listed, loaded, rfl, compiled, isText, by decide, by decide⟩

end QuerySettings
end InstanceDirectory
