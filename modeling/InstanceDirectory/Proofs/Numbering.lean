import InstanceDirectory.Proofs.Marking

/-!
# Placeholders and arguments agree

A chain has parts: its predicates in order, then its limit, then its offset.  The pieces of its
statement lay these parts out in this order, with fixed words and names between them.  So the
arguments are what the parts bind, and the placeholders number them from one on, as long as no
name of a table contains the mark of a label.
-/

namespace InstanceDirectory

/-- What an equality binds; null and truth values are words. -/
def Value.bound? : Value -> Option Value
  | null => none
  | bool _ => none
  | value => some value

/-- The value that a predicate binds, after the stem of its label. -/
def Predicate.bound? : Predicate -> Option (String × Value)
  | equals column value => value.bound?.map fun value => (column.name, value)
  | anyOf column values _ => some (column.name ++ "_list", .list values)
  | text column value .equals => value.bound?.map fun value => (column.name, value)
  | text _ value .equalsIgnoreCase => some (Clause.freeStem, value)
  | text column value _ =>
      (Clause.pattern value).toOption.map fun pattern => (column.name, .text pattern)
  | unstated => none
  | foreign _ => none

/-- A part of a chain that statement text shows by a clause of its own. -/
inductive Part where
  | predicate (predicate : Predicate)
  | limit (bound : Nat)
  | offset (bound : Nat)

namespace Part

/-- The value that a part binds, after the stem of its label. -/
def bound? : Part -> Option (String × Value)
  | .predicate condition => condition.bound?
  | limit bound => some (Clause.freeStem, .ofNat bound)
  | offset bound => some (Clause.freeStem, .ofNat bound)

/-- The pieces of the clause of a part. -/
inductive Written : Part -> List Piece -> Prop where
  | predicate {predicate : Predicate} {clause : Clause} {pieces : List Piece} :
      Clause.ofPredicate predicate = .ok clause -> clause.conjunctPieces = .ok pieces ->
      Written (.predicate predicate) pieces
  | limit (bound : Nat) :
      Written (.limit bound) [.words " \n LIMIT ", Draft.boundPiece bound]
  | offset (bound : Nat) :
      Written (.offset bound) [.words " OFFSET ", Draft.boundPiece bound]
  | offsetAlone (bound : Nat) :
      Written (.offset bound) [.words "\n LIMIT ALL OFFSET ", Draft.boundPiece bound]

/-- Pieces show exactly what a part binds. -/
structure Shows (bound? : Option (String × Value)) (pieces : List Piece) : Prop where
  arguments : Piece.arguments pieces = (bound?.map Prod.snd).toList
  stems : pieces.filterMap Piece.stem? = (bound?.map Prod.fst).toList
  plain : ∀ piece ∈ pieces, piece.IsPlain

end Part

namespace Column

theorem dot_not_mem_name (column : Column) :
    '.' ∉ column.name.toList ∧ '.' ∉ (column.name ++ "_list").toList := by
  cases column <;> decide

end Column

namespace Clause

/-- The value that a condition binds, after the stem of its label. -/
def bound? : Clause -> Option (String × Value)
  | equals column value => some (column.name, value)
  | anyOf column values => some (column.name ++ "_list", .list values)
  | equalsIgnoringCase _ value => some (freeStem, value)
  | startsWith column pattern => some (column.name, .text pattern)
  | contains column pattern => some (column.name, .text pattern)
  | _ => none

theorem bound?_equality (column : Column) (value : Value) :
    (equality column value).bound? = value.bound?.map fun value => (column.name, value) := by
  cases value <;> rfl

/-- A condition binds what its predicate does. -/
theorem bound?_of_ofPredicate
    {predicate : Predicate}
    {clause : Clause}
    (stated : ofPredicate predicate = .ok clause)
    (own : ∀ failure, clause ≠ .foreign failure) :
    clause.bound? = predicate.bound? := by
  cases predicate with
  | equals column value =>
      cases stated
      exact bound?_equality column value
  | anyOf column values nonempty =>
      cases stated
      rfl
  | text column value comparison =>
      cases comparison with
      | equals =>
          cases stated
          exact bound?_equality column value
      | equalsIgnoreCase =>
          cases stated
          rfl
      | startsWith =>
          cases value <;> cases stated
          rfl
      | contains =>
          cases value <;> cases stated
          rfl
  | unstated => cases stated
  | foreign failure =>
      cases stated
      exact absurd rfl (own failure)

/-- The pieces of a condition show what it binds. -/
theorem shows_conjunctPieces
    {clause : Clause}
    {pieces : List Piece}
    (written : clause.conjunctPieces = .ok pieces) :
    Part.Shows clause.bound? pieces := by
  cases clause with
  | isNull column =>
      cases written
      exact ⟨rfl, rfl, by simp [isPatternMatch]⟩
  | isTruth column truth =>
      cases written
      refine ⟨rfl, rfl, ?_⟩
      cases truth <;> simp [isPatternMatch]
  | equals column value =>
      cases written
      exact ⟨rfl, rfl, by simp [isPatternMatch, column.dot_not_mem_name]⟩
  | anyOf column values =>
      have noDot := column.dot_not_mem_name.2
      cases written
      exact ⟨rfl, rfl, by simpa [isPatternMatch] using noDot⟩
  | equalsIgnoringCase column value =>
      cases written
      exact ⟨rfl, rfl, by simp [isPatternMatch, freeStem]⟩
  | startsWith column pattern =>
      cases written
      exact ⟨rfl, rfl, by simp [isPatternMatch, column.dot_not_mem_name]⟩
  | contains column pattern =>
      cases written
      exact ⟨rfl, rfl, by simp [isPatternMatch, column.dot_not_mem_name]⟩
  | foreign failure => cases written

end Clause

/-- The clause of a part shows what the part binds. -/
theorem Part.Written.shows
    {part : Part}
    {pieces : List Piece}
    (written : Written part pieces) :
    Shows part.bound? pieces := by
  have noDot : '.' ∉ Clause.freeStem.toList := by decide
  cases written with
  | @predicate predicate clause pieces stated written =>
      have own : ∀ failure, clause ≠ .foreign failure := by
        intro failure same
        rw [same] at written
        cases written
      have shows := Clause.shows_conjunctPieces written
      rw [Clause.bound?_of_ofPredicate stated own] at shows
      exact shows
  | limit bound => exact ⟨rfl, rfl, by simpa [Draft.boundPiece] using noDot⟩
  | offset bound => exact ⟨rfl, rfl, by simpa [Draft.boundPiece] using noDot⟩
  | offsetAlone bound => exact ⟨rfl, rfl, by simpa [Draft.boundPiece] using noDot⟩

/-- Pieces lay parts out in order: clauses of the parts, with words and names between them. -/
inductive Layout : List Part -> List Piece -> Prop where
  | nil : Layout [] []
  | glue {parts : List Part} {piece : Piece} {pieces : List Piece} :
      piece.IsPlain -> piece.value? = none -> Layout parts pieces ->
      Layout parts (piece :: pieces)
  | part {part : Part} {parts : List Part} {written pieces : List Piece} :
      part.Written written -> Layout parts pieces ->
      Layout (part :: parts) (written ++ pieces)

namespace Layout

variable {parts : List Part} {pieces : List Piece}

theorem append
    {others : List Part}
    {later : List Piece}
    (first : Layout parts pieces)
    (second : Layout others later) :
    Layout (parts ++ others) (pieces ++ later) := by
  induction first with
  | nil => exact second
  | glue plain noValue _ restHypothesis => exact .glue plain noValue restHypothesis
  | part written _ restHypothesis =>
      rw [List.append_assoc]
      exact .part written restHypothesis

/-- Words and names alone lay no part out. -/
theorem of_glue
    (isGlue : ∀ piece ∈ pieces, piece.IsPlain ∧ piece.value? = none) :
    Layout [] pieces := by
  induction pieces with
  | nil => exact .nil
  | cons piece pieces piecesHypothesis =>
      rw [List.forall_mem_cons] at isGlue
      exact .glue isGlue.1.1 isGlue.1.2 (piecesHypothesis isGlue.2)

/-- The arguments are what the parts bind. -/
theorem arguments (layout : Layout parts pieces) :
    Piece.arguments pieces = (parts.filterMap Part.bound?).map Prod.snd := by
  induction layout with
  | nil => rfl
  | @glue parts piece pieces _ noValue _ restHypothesis =>
      rw [← restHypothesis]
      exact List.filterMap_cons_none noValue
  | @part part parts written pieces isWritten _ restHypothesis =>
      rw [Piece.arguments_append, isWritten.shows.arguments, restHypothesis]
      cases bound : part.bound? with
      | none => rw [List.filterMap_cons_none bound]; rfl
      | some pair => rw [List.filterMap_cons_some bound]; rfl

/-- The labels are made of the stems of what the parts bind. -/
theorem stems (layout : Layout parts pieces) :
    pieces.filterMap Piece.stem? = (parts.filterMap Part.bound?).map Prod.fst := by
  induction layout with
  | nil => rfl
  | @glue parts piece pieces _ noValue _ restHypothesis =>
      have noStem : piece.stem? = none := by
        cases piece <;> first | rfl | cases noValue
      rw [List.filterMap_cons_none noStem, restHypothesis]
  | @part part parts written pieces isWritten _ restHypothesis =>
      rw [List.filterMap_append, isWritten.shows.stems, restHypothesis]
      cases bound : part.bound? with
      | none => rw [List.filterMap_cons_none bound]; rfl
      | some pair => rw [List.filterMap_cons_some bound]; rfl

theorem isPlain (layout : Layout parts pieces) : ∀ piece ∈ pieces, piece.IsPlain := by
  induction layout with
  | nil => exact nofun
  | glue plain _ _ restHypothesis => exact List.forall_mem_cons.mpr ⟨plain, restHypothesis⟩
  | part written _ restHypothesis =>
      exact List.forall_mem_append.mpr ⟨written.shows.plain, restHypothesis⟩

/-- A part stands between the layouts of the parts before and after it. -/
theorem split
    {earlier later : List Part}
    {part : Part}
    (layout : Layout (earlier ++ part :: later) pieces) :
    ∃ before written after, pieces = before ++ written ++ after ∧ Layout earlier before ∧
      part.Written written := by
  generalize whole : earlier ++ part :: later = parts at layout
  induction layout generalizing earlier with
  | nil => simp at whole
  | @glue parts piece pieces plain noValue _ restHypothesis =>
      obtain ⟨before, written, after, rfl, layout, isWritten⟩ := restHypothesis whole
      exact ⟨piece :: before, written, after, rfl, .glue plain noValue layout, isWritten⟩
  | @part first parts written pieces isWritten rest restHypothesis =>
      cases earlier with
      | nil =>
          cases whole
          exact ⟨[], written, pieces, rfl, .nil, isWritten⟩
      | cons head others =>
          cases whole
          obtain ⟨before, partWritten, after, rfl, layout, partIsWritten⟩ := restHypothesis rfl
          refine ⟨written ++ before, partWritten, after, ?_, .part isWritten layout, partIsWritten⟩
          simp only [List.append_assoc]

/-- Clauses with words between them lay their parts out. -/
theorem separated
    {separator : String}
    {sequences : List (List Piece)}
    (plain : (Piece.words separator).IsPlain)
    (written : List.Forall₂ Part.Written parts sequences) :
    Layout parts (Piece.separated separator sequences) := by
  induction written with
  | nil => exact .nil
  | @cons part first parts rest isWritten restWritten restHypothesis =>
      cases restWritten with
      | nil =>
          have alone := Layout.part isWritten .nil
          rw [List.append_nil] at alone
          exact alone
      | cons secondWritten othersWritten =>
          exact .part isWritten (.glue plain rfl restHypothesis)

end Layout

theorem Piece.mem_separated
    {separator : String}
    {sequences : List (List Piece)}
    {piece : Piece}
    (present : piece ∈ separated separator sequences) :
    piece = .words separator ∨ ∃ pieces ∈ sequences, piece ∈ pieces := by
  induction sequences using separated.induct with
  | case1 => cases present
  | case2 pieces => exact .inr ⟨pieces, List.mem_cons_self, present⟩
  | case3 pieces rest nonempty restHypothesis =>
      simp only [separated, List.mem_append, List.mem_cons] at present
      rcases present with first | separates | later
      · exact .inr ⟨pieces, List.mem_cons_self, first⟩
      · exact .inl separates
      · rcases restHypothesis later with separates | ⟨others, isOther, inOther⟩
        · exact .inl separates
        · exact .inr ⟨others, List.mem_cons_of_mem _ isOther, inOther⟩

/-- The source of a select names every table that it covers. -/
theorem Selection.table_mem_source
    {selection : Selection}
    {table : Table}
    (isTable : table ∈ selection.tables) :
    .table table ∈ selection.source := by
  cases selection <;> cases table <;> simp [source, tables] at isTable ⊢

namespace Draft

theorem layout_headPieces (draft : Draft) : Layout [] draft.headPieces := by
  apply Layout.of_glue
  unfold headPieces
  cases draft.selection <;> decide

theorem layout_orderingPieces (draft : Draft) : Layout [] draft.orderingPieces := by
  apply Layout.of_glue
  intro piece present
  unfold orderingPieces at present
  simp only at present
  split at present
  · cases present
  · rcases List.mem_cons.mp present with rfl | inTerms
    · decide
    · rcases Piece.mem_separated inTerms with rfl | ⟨term, isTerm, inTerm⟩
      · decide
      · obtain ⟨sorting, -, rfl⟩ := List.mem_map.mp isTerm
        rcases List.mem_pair.mp inTerm with rfl | rfl
        · exact ⟨trivial, rfl⟩
        · rcases sorting with ⟨column, ascending⟩
          cases ascending <;> simp [Piece.value?]

theorem layout_windowPieces (draft : Draft) :
    Layout (draft.limit.toList.map .limit ++ draft.offset.toList.map .offset)
      draft.windowPieces := by
  unfold windowPieces
  cases draft.limit with
  | none =>
      cases draft.offset with
      | none => exact .nil
      | some offset => exact .part (.offsetAlone offset) .nil
  | some limit =>
      cases draft.offset with
      | none => exact .part (.limit limit) .nil
      | some offset => exact .part (.limit limit) (.part (.offset offset) .nil)

theorem layout_wherePieces
    {predicates : List Predicate}
    {conditions : List Clause}
    {conjuncts : List (List Piece)}
    (stated : Chain.States predicates conditions)
    (writes : Writes conditions conjuncts) :
    Layout (predicates.map .predicate) (wherePieces conjuncts) := by
  have written : List.Forall₂ Part.Written (predicates.map .predicate) conjuncts := by
    induction stated generalizing conjuncts with
    | nil =>
        cases writes
        exact .nil
    | cons first _ restHypothesis =>
        cases writes with
        | cons firstWritten restWritten =>
            exact .cons (.predicate first firstWritten) (restHypothesis restWritten)
  have separates := Layout.separated (by decide : (Piece.words " AND ").IsPlain) written
  unfold wherePieces
  split
  next isEmpty =>
    rw [List.isEmpty_iff.mp isEmpty] at separates
    exact separates
  next => exact .glue (by decide) rfl separates

/-- The pieces of a draft lay its predicates, its limit and its offset out. -/
theorem layout_piecesAround
    {draft : Draft}
    {predicates : List Predicate}
    {conjuncts : List (List Piece)}
    (stated : Chain.States predicates draft.conditions)
    (writes : Writes draft.conditions conjuncts) :
    Layout
      (predicates.map .predicate ++
        (draft.limit.toList.map .limit ++ draft.offset.toList.map .offset))
      (draft.piecesAround conjuncts) := by
  have upToConditions := draft.layout_headPieces.append (layout_wherePieces stated writes)
  have upToOrdering := upToConditions.append draft.layout_orderingPieces
  have whole := upToOrdering.append draft.layout_windowPieces
  rw [List.nil_append, List.append_nil] at whole
  exact whole

end Draft

namespace Chain

/-- The parts of a chain: its predicates in order, then its limit, then its offset. -/
def parts (chain : Chain) : List Part :=
  chain.predicates.map .predicate ++
    (chain.limit?.toList.map .limit ++ chain.offset?.toList.map .offset)

/-- What a chain binds, in order, after the stems of the labels. -/
def bound (chain : Chain) : List (String × Value) :=
  chain.parts.filterMap Part.bound?

/-- The labels of the values that a chain binds. -/
def labels (chain : Chain) : List String :=
  Piece.countStems [] (chain.bound.map Prod.fst)

/-- No table of a select has a name with the mark of a value that the chain binds. -/
def LeavesNames (chain : Chain) (schema : Schema) (selection : Selection) : Prop :=
  ∀ table ∈ selection.tables,
    ¬ Piece.IsMarked chain.labels (schema.tableText table).toList

/--
The value at an index among the arguments is bound by a part of the chain, after as many
others, and the clause of the part stands in the text with the number of the argument.
-/
structure Places
    (chain : Chain) (schema : Schema) (text : String) (index : Nat) (value : Value) : Prop where
  placed : ∃ earlier part later written before after,
    chain.parts = earlier ++ part :: later ∧
    (earlier.filterMap Part.bound?).length = index ∧
    part.bound?.map Prod.snd = some value ∧
    part.Written written ∧
    text = before ++ Piece.write schema [] (index + 1) written ++ after ∧
    Placeholder.numbers (Piece.write schema [] (index + 1) written).toList = [index + 1]

variable {chain : Chain} {schema : Schema} {selection : Selection}

/--
A statement is written in the pieces around its conditions, which lay the parts of its chain
out and name the tables of its source.
-/
theorem exists_conjuncts
    {statement : Statement}
    (compiled : chain.compile schema selection = .ok statement) :
    ∃ conditions conjuncts,
      let pieces := (chain.draft selection conditions).piecesAround conjuncts
      States chain.predicates conditions ∧ Draft.Writes conditions conjuncts ∧
      Layout chain.parts pieces ∧
      (∀ table ∈ Piece.tables pieces, table ∈ selection.tables) ∧
      (∀ table ∈ selection.tables, .table table ∈ pieces) ∧
      statement = { text := Piece.text schema pieces, arguments := Piece.arguments pieces } := by
  obtain ⟨conditions, stated, compiles⟩ := compile_eq_ok_iff.mp compiled
  obtain ⟨insideSource, conjuncts, writes, rfl⟩ := Draft.compile_eq_ok_iff.mp compiles
  have builds : chain.Builds := builds_of_writes stated writes
  have inside := (readsOutsideSource_iff builds stated).mp insideSource
  refine ⟨conditions, conjuncts, stated, writes, Draft.layout_piecesAround stated writes,
    tables_piecesAround builds inside stated writes, fun table isTable => ?_, rfl⟩
  simp only [Draft.piecesAround, Draft.headPieces, List.mem_append, List.mem_cons]
  exact .inl (.inl (.inl (.inr (.inr (Selection.table_mem_source isTable)))))

/-- A statement's pieces lay the parts of its chain out and name the tables of its source. -/
theorem exists_layout
    {statement : Statement}
    (compiled : chain.compile schema selection = .ok statement) :
    ∃ pieces, Layout chain.parts pieces ∧
      (∀ table ∈ Piece.tables pieces, table ∈ selection.tables) ∧
      (∀ table ∈ selection.tables, .table table ∈ pieces) ∧
      statement.text = Piece.text schema pieces ∧
      statement.arguments = Piece.arguments pieces := by
  obtain ⟨conditions, conjuncts, -, -, layout, inside, mentioned, rfl⟩ := exists_conjuncts compiled
  exact ⟨_, layout, inside, mentioned, rfl, rfl⟩

/-- What is chosen at an index stands after as many others. -/
theorem exists_split_of_getElem?_filterMap
    {choose : α -> Option β}
    {elements : List α}
    {index : Nat}
    {value : β}
    (chosen : (elements.filterMap choose)[index]? = some value) :
    ∃ earlier element later, elements = earlier ++ element :: later ∧
      (earlier.filterMap choose).length = index ∧ choose element = some value := by
  induction elements generalizing index with
  | nil => simp at chosen
  | cons first rest restHypothesis =>
      cases choice : choose first with
      | none =>
          rw [List.filterMap_cons_none choice] at chosen
          obtain ⟨earlier, element, later, rfl, number, isChoice⟩ := restHypothesis chosen
          refine ⟨first :: earlier, element, later, rfl, ?_, isChoice⟩
          rw [List.filterMap_cons_none choice, number]
      | some found =>
          rw [List.filterMap_cons_some choice] at chosen
          cases index with
          | zero =>
              refine ⟨[], first, rest, rfl, rfl, ?_⟩
              rw [choice]
              exact chosen
          | succ index =>
              rw [List.getElem?_cons_succ] at chosen
              obtain ⟨earlier, element, later, rfl, number, isChoice⟩ := restHypothesis chosen
              refine ⟨first :: earlier, element, later, rfl, ?_, isChoice⟩
              rw [List.filterMap_cons_some choice, List.length_cons, number]

/--
The arguments of a statement are what its chain binds.  Its placeholders are the numbers from
one to the number of arguments exactly when no table has the mark of a bound value in its name,
and then every argument is bound by the part whose clause contains its placeholder.
-/
theorem placeholders_iff_leavesNames
    {statement : Statement}
    (noDollar : ∀ name ∈ schema.names, '$' ∉ name.toList)
    (compiled : chain.compile schema selection = .ok statement) :
    statement.arguments = chain.bound.map Prod.snd ∧
    (Placeholder.numbers statement.text.toList = List.range' 1 statement.arguments.length ↔
      chain.LeavesNames schema selection) ∧
    (chain.LeavesNames schema selection ->
      ∀ index value, statement.arguments[index]? = some value ->
        chain.Places schema statement.text index value) := by
  obtain ⟨pieces, layout, inside, mentioned, sameText, sameArguments⟩ := exists_layout compiled
  have sameLabels : Piece.labels pieces = chain.labels := by
    rw [Piece.labels, layout.stems]
    rfl
  have noDot : ∀ label ∈ chain.labels, '.' ∉ Piece.mark label := by
    rw [← sameLabels]
    exact Piece.dot_not_mem_mark layout.isPlain
  have bound : statement.arguments = chain.bound.map Prod.snd := by
    rw [sameArguments, layout.arguments]
    rfl
  rw [sameText, Piece.text, sameLabels]
  refine ⟨bound, ⟨fun numbered table isTable marked => ?_, fun leaves => ?_⟩,
    fun leaves index value isArgument => ?_⟩
  · have more := Piece.length_arguments_lt_numbers_write (mentioned table isTable) marked 1
    rw [numbered, List.length_range', sameArguments] at more
    exact Nat.lt_irrefl _ more
  · rw [sameArguments]
    exact Piece.numbers_write noDollar noDot layout.isPlain
      (fun table isMentioned => leaves table (inside table isMentioned)) 1
  · rw [bound, List.getElem?_map, Option.map_eq_some_iff] at isArgument
    obtain ⟨pair, isPair, rfl⟩ := isArgument
    obtain ⟨earlier, part, later, split, number, isBound⟩ :=
      exists_split_of_getElem?_filterMap isPair
    rw [split] at layout
    obtain ⟨before, written, after, rfl, beforeLayout, isWritten⟩ := layout.split
    have passed : (Piece.arguments before).length = index := by
      rw [beforeLayout.arguments, List.length_map, number]
    have one : (Piece.arguments written).length = 1 := by
      rw [isWritten.shows.arguments, isBound]
      rfl
    have unmarked : ∀ table ∈ Piece.tables written,
        ¬ Piece.IsMarked chain.labels (schema.tableText table).toList := by
      intro table isMentioned
      refine leaves table (inside table ?_)
      rw [Piece.tables_append, Piece.tables_append]
      exact List.mem_append_left _ (List.mem_append_right _ isMentioned)
    have unlabelled : ∀ table ∈ Piece.tables written,
        ¬ Piece.IsMarked [] (schema.tableText table).toList := by
      rintro table - ⟨label, present, -⟩
      cases present
    have asItIs := Piece.write_of_unmarked noDot unmarked (index + 1)
    have shown :=
      Piece.numbers_write noDollar (by simp) isWritten.shows.plain unlabelled (index + 1)
    rw [one] at shown
    refine ⟨earlier, part, later, written, Piece.write schema chain.labels 1 before,
      Piece.write schema chain.labels (index + 2) after, split, number, ?_, isWritten, ?_, shown⟩
    · rw [isBound]
      rfl
    · rw [← asItIs, Piece.write_append, Piece.write_append, Piece.arguments_append,
        List.length_append, passed, one, Nat.add_comm 1 index, Nat.add_comm 1 (index + 1)]

/-- A condition that binds nothing stands between two values, and the limit is numbered last. -/
theorem placeholders_of_limited :
    ∃ statement,
      Chain.compile
        [.paginate { limit := some 5 },
          .filter [.equals .displayName .null, .equals .id (.text "a")]]
        .standard .page = .ok statement ∧
      statement.arguments = [.text "a", .int 5] ∧
      Placeholder.numbers statement.text.toList = [1, 2] := by
  have noDollar : ∀ name ∈ Schema.standard.names, '$' ∉ name.toList := by decide
  have noPercent : '%' ∉ (Schema.standard.tableText .instances).toList := by decide
  have leaves (chain : Chain) : chain.LeavesNames .standard .page := by
    rintro table isTable ⟨label, -, occurs⟩
    cases List.mem_singleton.mp isTable
    exact noPercent (occurs.subset List.mem_cons_self)
  obtain ⟨bound, numbered, -⟩ := placeholders_iff_leavesNames noDollar
    (rfl : Chain.compile
      [.paginate { limit := some 5 }, .filter [.equals .displayName .null, .equals .id (.text "a")]]
      .standard .page = .ok _)
  exact ⟨_, rfl, bound, numbered.mpr (leaves _)⟩

/-- A schema whose instance table is called like the mark of a label. -/
def markedSchema : Schema where
  schemaName := some "projections"
  instanceTable := "%(id_1)s"
  domainTable := "instance_domains"
  distinctTables := by decide

/-- The text of a table that is called like a mark shows placeholders of its own. -/
theorem placeholders_of_marked :
    (∀ name ∈ markedSchema.names, '$' ∉ name.toList) ∧
    ∃ statement,
      Chain.compile [.filter [.equals .id (.text "x")]] markedSchema .page = .ok statement ∧
      statement.arguments = [.text "x"] ∧
      Placeholder.numbers statement.text.toList ≠ List.range' 1 statement.arguments.length := by
  have compiles : ∃ statement,
      Chain.compile [.filter [.equals .id (.text "x")]] markedSchema .page = .ok statement :=
    ⟨_, rfl⟩
  obtain ⟨statement, compiled⟩ := compiles
  obtain ⟨pieces, layout, -, mentioned, sameText, sameArguments⟩ := exists_layout compiled
  have sameLabels : Piece.labels pieces = ["id_1"] := by
    rw [Piece.labels, layout.stems]
    rfl
  have marked : Piece.IsMarked ["id_1"] (markedSchema.tableText .instances).toList :=
    ⟨"id_1", List.mem_cons_self, "projections.\"".toList, "\"".toList, by decide⟩
  have more := Piece.length_arguments_lt_numbers_write
    (mentioned .instances List.mem_cons_self) marked 1
  refine ⟨by decide, statement, compiled, ?_, fun numbered => ?_⟩
  · rw [sameArguments, layout.arguments]
    rfl
  · rw [sameText, Piece.text, sameLabels, sameArguments] at numbered
    rw [numbered, List.length_range'] at more
    exact Nat.lt_irrefl _ more

end Chain
end InstanceDirectory
