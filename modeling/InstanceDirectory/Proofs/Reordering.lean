import InstanceDirectory.Proofs.Reading

/-!
# The order of predicates

A search may list its predicates in any order.  Another order numbers the placeholders anew and
moves the arguments, and it does no more than that: the statement reads as the same sections,
but for the order of its conditions, which does not matter for their conjunction.

Only a table whose name contains the mark of a label is written with a number, and that number
depends on the order.
-/

namespace InstanceDirectory

/-- The same sections, but for the order of the conditions. -/
structure Sections.Alike (first second : Sections α) : Prop where
  selectList : first.selectList = second.selectList
  source : first.source = second.source
  conjuncts : first.conjuncts.Perm second.conjuncts
  ordering : first.ordering = second.ordering
  window : first.window = second.window

/-- The conjunction of two truth values, each of which may be unknown. -/
def bothHold? : Option Bool -> Option Bool -> Option Bool
  | some false, _ => some false
  | _, some false => some false
  | some true, some true => some true
  | _, _ => none

/-- The truth of several conditions together; without any, all rows are selected. -/
def conjunction (truths : List (Option Bool)) : Option Bool :=
  truths.foldl bothHold? (some true)

theorem bothHold?_right_comm (all first second : Option Bool) :
    bothHold? (bothHold? all first) second = bothHold? (bothHold? all second) first := by
  rcases all with _ | (_ | _) <;> rcases first with _ | (_ | _) <;>
    rcases second with _ | (_ | _) <;> rfl

/-- The order of truth values does not matter for their conjunction. -/
theorem conjunction_perm
    {truths others : List (Option Bool)}
    (reordered : truths.Perm others) :
    conjunction truths = conjunction others :=
  reordered.foldl_eq' (fun first _ second _ all => bothHold?_right_comm all first second) _

/-! ## Names among labels -/

namespace Piece

variable {schema : Schema} {labels others : List String}

/-- Characters without a dot start a text with a dot if they start it before the dot. -/
theorem prefix_append_dot_iff
    {start chars rest : List Char}
    (noDot : '.' ∉ start) :
    start <+: chars ++ '.' :: rest ↔ start <+: chars := by
  refine ⟨fun starts => ?_, fun starts => starts.trans (List.prefix_append _ _)⟩
  induction chars generalizing start with
  | nil =>
      cases start with
      | nil => exact List.nil_prefix
      | cons first others =>
          obtain ⟨isDot, -⟩ := List.cons_prefix_cons.mp starts
          exact absurd (isDot ▸ List.mem_cons_self) noDot
  | cons char chars charsHypothesis =>
      cases start with
      | nil => exact List.nil_prefix
      | cons first others =>
          obtain ⟨rfl, later⟩ := List.cons_prefix_cons.mp starts
          have othersWithout : '.' ∉ others := fun present => noDot (List.mem_cons_of_mem _ present)
          exact List.cons_prefix_cons.mpr ⟨rfl, charsHypothesis othersWithout later⟩

/-- No mark reaches beyond a dot. -/
theorem markAt?_append_dot
    (noDot : ∀ label ∈ labels, '.' ∉ mark label)
    (chars rest : List Char) :
    markAt? labels (chars ++ '.' :: rest) = markAt? labels chars := by
  have same : ∀ entry ∈ labels.zipIdx,
      (mark entry.1).isPrefixOf (chars ++ '.' :: rest) = (mark entry.1).isPrefixOf chars := by
    intro entry present
    rw [Bool.eq_iff_iff, List.isPrefixOf_iff_prefix, List.isPrefixOf_iff_prefix]
    exact prefix_append_dot_iff (noDot entry.1 (List.fst_mem_of_mem_zipIdx present))
  rw [markAt?, markAt?, ← List.head?_filter, ← List.head?_filter, List.filter_congr same]

/-- A mark that is found fits into the characters. -/
theorem width_le_of_markAt?
    {chars : List Char}
    {placeholder : String}
    {width : Nat}
    (found : markAt? labels chars = some (placeholder, width)) :
    width ≤ chars.length := by
  obtain ⟨entry, isFound, same⟩ := Option.map_eq_some_iff.mp found
  have starts := List.find?_some isFound
  cases same
  exact (List.isPrefixOf_iff_prefix.mp starts).length_le

/-- What follows a dot is left as it is if it has no percent sign. -/
theorem numberMarks_append_dot
    {chars rest : List Char}
    {passed : Nat}
    (noDot : ∀ label ∈ labels, '.' ∉ mark label)
    (noPercent : '%' ∉ rest)
    (fits : passed ≤ chars.length) :
    numberMarks labels passed (chars ++ '.' :: rest) =
      numberMarks labels passed chars ++ '.' :: rest := by
  induction chars generalizing passed with
  | nil =>
      obtain rfl : passed = 0 := Nat.le_zero.mp fits
      have without : '%' ∉ '.' :: rest := by simpa using noPercent
      exact numberMarks_of_not_mem labels _ without
  | cons first others othersHypothesis =>
      cases passed with
      | succ passed => exact othersHypothesis (Nat.le_of_succ_le_succ fits)
      | zero =>
          have sameMark := markAt?_append_dot noDot (first :: others) rest
          rw [List.cons_append] at sameMark ⊢
          rw [numberMarks, numberMarks, sameMark]
          cases found : markAt? labels (first :: others) with
          | none =>
              simp only
              rw [othersHypothesis (Nat.zero_le _), List.cons_append]
          | some entry =>
              have narrow := width_le_of_markAt? found
              rw [List.length_cons] at narrow
              simp only
              rw [othersHypothesis (by omega), List.append_assoc]

/-- A column is written as its table is, with its own name after it. -/
theorem nameText_columnText
    (noDot : ∀ label ∈ labels, '.' ∉ mark label)
    (column : Column) :
    nameText labels (schema.columnText column) =
      nameText labels (schema.tableText column.table) ++ "." ++ Identifier.write column.name := by
  rw [nameText, Schema.toList_columnText,
    numberMarks_append_dot noDot column.not_mem_write_name.2 (Nat.zero_le _), nameText]
  apply String.toList_injective
  simp

/-- Pieces read the same among other labels that write their tables the same. -/
theorem map_fragment_congr
    {pieces : List Piece}
    (noDot : ∀ label ∈ labels, '.' ∉ mark label)
    (othersNoDot : ∀ label ∈ others, '.' ∉ mark label)
    (same : ∀ table ∈ tables pieces,
      nameText labels (schema.tableText table) = nameText others (schema.tableText table)) :
    pieces.map (fragment schema labels) = pieces.map (fragment schema others) := by
  apply List.map_congr_left
  intro piece present
  have mentioned {table : Table} (isMentioned : piece.table? = some table) :
      table ∈ tables pieces := List.mem_filterMap.mpr ⟨piece, present, isMentioned⟩
  cases piece with
  | words text => rfl
  | table name => rw [fragment, fragment, same name (mentioned rfl)]
  | column name =>
      rw [fragment, fragment, nameText_columnText noDot, nameText_columnText othersNoDot,
        same name.table (mentioned rfl)]
  | bound stem value cast => rfl

/-- A label counts one of the occurrences of its stem. -/
theorem mem_countStems_iff {earlier stems : List String} {label : String} :
    label ∈ countStems earlier stems ↔
      ∃ stem number, earlier.count stem < number ∧
        number ≤ earlier.count stem + stems.count stem ∧
        label = stem ++ "_" ++ toString number := by
  induction stems generalizing earlier with
  | nil =>
      simp only [countStems, List.not_mem_nil, List.count_nil, false_iff]
      rintro ⟨stem, number, more, less, -⟩
      omega
  | cons first rest restHypothesis =>
      rw [countStems, List.mem_cons, restHypothesis]
      constructor
      · rintro (rfl | ⟨stem, number, more, less, rfl⟩)
        · refine ⟨first, _, Nat.lt_succ_self _, ?_, rfl⟩
          rw [List.count_cons_self]
          omega
        · refine ⟨stem, number, ?_, ?_, rfl⟩ <;> rw [List.count_cons] at * <;> split at * <;> omega
      · rintro ⟨stem, number, more, less, rfl⟩
        by_cases next : stem = first ∧ number = earlier.count first + 1
        · obtain ⟨rfl, rfl⟩ := next
          exact .inl rfl
        · refine .inr ⟨stem, number, ?_, ?_, rfl⟩
          · rw [List.count_cons]
            split
            next same =>
              rw [beq_iff_eq] at same
              subst same
              have later : number ≠ earlier.count first + 1 := fun isNext => next ⟨rfl, isNext⟩
              omega
            next => omega
          · rw [List.count_cons] at less ⊢
            split at less <;> split <;> omega

/-- Stems in another order make the same labels in another order. -/
theorem mem_countStems_of_perm
    {stems otherStems : List String}
    {label : String}
    (reordered : stems.Perm otherStems)
    (present : label ∈ countStems [] otherStems) :
    label ∈ countStems [] stems := by
  rw [mem_countStems_iff] at present ⊢
  simpa only [reordered.count_eq] using present

end Piece

/-! ## Another order -/

namespace Selection

theorem tables_selectList (selection : Selection) :
    ∀ table ∈ Piece.tables (Piece.separated ", " (selection.items.map SelectItem.pieces)),
      table ∈ selection.tables := by
  cases selection <;> decide

theorem tables_source (selection : Selection) :
    ∀ table ∈ Piece.tables selection.source, table ∈ selection.tables := by
  cases selection <;> decide

end Selection

namespace Search

/-- No mark of a label of a search contains a dot. -/
theorem dot_not_mem_mark {search : Search} (builds : search.chain.Builds) :
    ∀ label ∈ search.chain.labels, '.' ∉ Piece.mark label := by
  obtain ⟨conditions, conjuncts, -, -, layout, sameLabels⟩ := exists_layout_of_builds builds .page
  rw [← sameLabels]
  exact Piece.dot_not_mem_mark layout.isPlain

/-- The text of a search names the identity first. -/
theorem prefix_text
    {search : Search}
    {schema : Schema}
    {selection : Selection}
    {statement : Statement}
    (builds : search.chain.Builds)
    (inside : search.chain.StaysInside selection)
    (isStatement : search.chain.compile schema selection = .ok statement) :
    ("SELECT " ++ Piece.nameText search.chain.labels (schema.columnText .id)).toList <+:
      statement.text.toList := by
  obtain ⟨conjuncts, compiled, -, -⟩ := exists_compile_eq schema builds inside
  have starts : ∃ later,
      (search.pieces selection conjuncts).selectList = .column .id :: later := by
    cases selection <;> exact ⟨_, rfl⟩
  obtain ⟨later, starts⟩ := starts
  cases isStatement.symm.trans compiled
  simp only [Sections.text, Sections.numbered, starts, Piece.numbered, Fragment.joined_cons,
    Fragment.text, String.toList_append, List.append_assoc]
  rw [← List.append_assoc]
  exact List.prefix_append _ _

/-- Two searches with the same request and the same predicates, listed in any order. -/
structure Reorders (first second : Search) : Prop where
  request : first.request = second.request
  predicates : first.predicates.Perm second.predicates

/-- Two searches write every table of a source the same. -/
def NamesAlike (first second : Search) (schema : Schema) (selection : Selection) : Prop :=
  ∀ table ∈ selection.tables,
    Piece.nameText first.chain.labels (schema.tableText table) =
      Piece.nameText second.chain.labels (schema.tableText table)

namespace Reorders

variable {first second : Search} {schema : Schema} {selection : Selection}

theorem builds (reorders : first.Reorders second) (builds : first.chain.Builds) :
    second.chain.Builds := by
  intro predicate present
  rw [predicates_chain] at present
  refine builds predicate ?_
  rw [predicates_chain]
  exact reorders.predicates.mem_iff.mpr present

theorem staysInside_iff (reorders : first.Reorders second) :
    first.chain.StaysInside selection ↔ second.chain.StaysInside selection := by
  have same (column : Column) : column ∈ first.chain.columns ↔ column ∈ second.chain.columns := by
    simp only [chain, Chain.columns, Step.columns, Step.predicates, Step.request,
      List.flatMap_singleton, List.mem_append, List.mem_filterMap, reorders.request,
      reorders.predicates.mem_iff]
  simp only [Chain.StaysInside, same]

theorem bound_perm (reorders : first.Reorders second) :
    first.chain.bound.Perm second.chain.bound := by
  rw [bound_chain, bound_chain, reorders.request]
  exact (reorders.predicates.filterMap _).append_right _

/-- Names without a mark are written as they are under both orders. -/
theorem namesAlike_of_leavesNames
    (reorders : first.Reorders second)
    (leaves : first.chain.LeavesNames schema selection) :
    first.NamesAlike second schema selection := by
  intro table isTable
  have unmarked := leaves table isTable
  have otherUnmarked : ¬ Piece.IsMarked second.chain.labels (schema.tableText table).toList := by
    rintro ⟨label, present, occurs⟩
    exact unmarked
      ⟨label, Piece.mem_countStems_of_perm (reorders.bound_perm.map Prod.fst) present, occurs⟩
  rw [Piece.nameText, Piece.nameText, Piece.numberMarks_of_not_isMarked unmarked,
    Piece.numberMarks_of_not_isMarked otherUnmarked]

/-- Conditions read the same under both orders if the tables are written the same. -/
theorem conditions_perm
    (reorders : first.Reorders second)
    (builds : first.chain.Builds)
    (inside : first.chain.StaysInside selection)
    (namesAlike : first.NamesAlike second schema selection) :
    (first.predicates.map (Predicate.condition schema first.chain.labels)).Perm
      (second.predicates.map (Predicate.condition schema second.chain.labels)) := by
  have noDot := dot_not_mem_mark builds
  have otherNoDot := dot_not_mem_mark (reorders.builds builds)
  have same : ∀ predicate ∈ first.predicates,
      predicate.condition schema first.chain.labels =
        predicate.condition schema second.chain.labels := by
    intro predicate present
    have applied : predicate ∈ first.chain.predicates := by rwa [predicates_chain]
    obtain ⟨clause, stated⟩ := (builds predicate applied).stated
    obtain ⟨column, about, ofClause⟩ := (builds predicate applied).about stated
    obtain ⟨pieces, written, tables⟩ := Clause.exists_conjunctPieces ofClause
    have isUsed : column ∈ first.chain.columns :=
      Chain.mem_columns.mpr (.inl (List.mem_filterMap.mpr ⟨predicate, applied, about⟩))
    rw [Predicate.condition_eq stated written, Predicate.condition_eq stated written]
    refine Piece.map_fragment_congr noDot otherNoDot fun table mentioned => ?_
    rw [tables, List.mem_singleton] at mentioned
    rw [mentioned]
    exact namesAlike column.table (inside column isUsed)
  rw [List.map_congr_left same]
  exact reorders.predicates.map _

/-- The tables that a search sorts by belong to its source if it stays inside. -/
theorem tables_orderingPieces
    (inside : first.chain.StaysInside selection) :
    ∀ table ∈ Piece.tables (({ selection } : Draft).paginate first.request).orderingPieces,
      table ∈ selection.tables := by
  intro table mentioned
  rw [Draft.tables_orderingPieces] at mentioned
  obtain ⟨column, isSorted, rfl⟩ := List.mem_map.mp mentioned
  refine inside column (Chain.mem_columns.mpr (.inr ?_))
  have ordering := congrArg Draft.ordering (first.draft_chain selection [])
  simp only [Chain.draft] at ordering
  rw [ordering]
  exact isSorted

/--
Two orders make the same sections, but for the order of the conditions, exactly when every
table of the source is written the same under both.
-/
theorem alike_iff
    (reorders : first.Reorders second)
    (builds : first.chain.Builds)
    (inside : first.chain.StaysInside selection) :
    (first.sections schema selection).Alike (second.sections schema selection) ↔
      first.NamesAlike second schema selection := by
  have noDot := dot_not_mem_mark builds
  have otherNoDot := dot_not_mem_mark (reorders.builds builds)
  constructor
  · intro alike table isTable
    have sameSource : selection.source.map (Piece.fragment schema first.chain.labels) =
        selection.source.map (Piece.fragment schema second.chain.labels) := alike.source
    have same := List.map_inj_left.mp sameSource _ (Selection.table_mem_source isTable)
    exact Fragment.verbatim.inj same
  · intro namesAlike
    have sameFragments {pieces : List Piece}
        (within : ∀ table ∈ Piece.tables pieces, table ∈ selection.tables) :
        pieces.map (Piece.fragment schema first.chain.labels) =
          pieces.map (Piece.fragment schema second.chain.labels) :=
      Piece.map_fragment_congr noDot otherNoDot fun table mentioned =>
        namesAlike table (within table mentioned)
    have samePieces : second.pieces selection [] = first.pieces selection [] := by
      rw [pieces, pieces, reorders.request]
    constructor
    case conjuncts => exact reorders.conditions_perm builds inside namesAlike
    all_goals
      unfold sections
      rw [samePieces]
      refine sameFragments ?_
    case selectList => exact selection.tables_selectList
    case source => exact selection.tables_source
    case ordering => exact tables_orderingPieces inside
    case window =>
      intro table mentioned
      rw [pieces, Draft.sections, Draft.tables_windowPieces] at mentioned
      cases mentioned

end Reorders

/--
What two orders of the predicates have in common when they compile.  The arguments are what the
predicates bind, each list in its own order, and then the limit and the offset.  Read with its
arguments in place, each statement has the sections of its own search, one condition for every
predicate.  These are the same sections, but for the order of the conditions, exactly when no
table of the source is written with a number that differs, and so whenever no name contains a
mark; then all conditions together are true, false or unknown under both orders alike.
-/
structure ComesToTheSame
    (first second : Search) (schema : Schema) (selection : Selection)
    (statement other : Statement) : Prop where
  arguments : statement.arguments =
    (first.predicates.filterMap Predicate.bound? ++ first.request.boundValues).map Prod.snd
  otherArguments : other.arguments =
    (second.predicates.filterMap Predicate.bound? ++ first.request.boundValues).map Prod.snd
  permuted : statement.arguments.Perm other.arguments
  reads : statement.Reads (first.sections schema selection)
  otherReads : other.Reads (second.sections schema selection)
  counted : (first.sections schema selection).conjuncts.length = first.predicates.length
  otherCounted : (second.sections schema selection).conjuncts.length = first.predicates.length
  alike_iff : (first.sections schema selection).Alike (second.sections schema selection) ↔
    first.NamesAlike second schema selection
  alike_of_leavesNames : first.chain.LeavesNames schema selection ->
    (first.sections schema selection).Alike (second.sections schema selection)
  sameTruth : (first.sections schema selection).Alike (second.sections schema selection) ->
    ∀ truth : List (Fragment Value) -> Option Bool,
      conjunction ((first.sections schema selection).conjuncts.map truth) =
        conjunction ((second.sections schema selection).conjuncts.map truth)

/--
The order in which predicates are listed does not decide whether a search compiles, and it does
not change what the search asks for, as long as the tables are written the same.
-/
theorem compile_reordered
    {first second : Search}
    (schema : Schema)
    (selection : Selection)
    (reorders : first.Reorders second)
    (builds : first.chain.Builds) :
    (∃ failure,
      first.chain.compile schema selection = .error failure ∧
      second.chain.compile schema selection = .error failure) ∨
    ∃ statement other,
      first.chain.compile schema selection = .ok statement ∧
      second.chain.compile schema selection = .ok other ∧
      ComesToTheSame first second schema selection statement other := by
  by_cases inside : first.chain.StaysInside selection
  case neg =>
    have otherLeaves := mt reorders.staysInside_iff.mpr inside
    exact .inl ⟨_, Chain.compile_of_not_staysInside schema builds inside,
      Chain.compile_of_not_staysInside schema (reorders.builds builds) otherLeaves⟩
  case pos =>
    obtain ⟨statement, compiled, arguments, reads⟩ := exists_statement_reads schema builds inside
    obtain ⟨other, otherCompiled, otherArguments, otherReads⟩ :=
      exists_statement_reads schema (reorders.builds builds) (reorders.staysInside_iff.mp inside)
    have alike_iff : _ ↔ first.NamesAlike second schema selection :=
      reorders.alike_iff builds inside
    refine .inr ⟨statement, other, compiled, otherCompiled, ?_⟩
    refine {
      arguments := ?arguments, otherArguments := ?otherArguments, permuted := ?permuted
      reads, otherReads, counted := List.length_map _, otherCounted := ?otherCounted
      alike_iff, alike_of_leavesNames := ?alike_of_leavesNames, sameTruth := ?sameTruth }
    case arguments => rw [arguments, bound_chain]
    case otherArguments => rw [otherArguments, bound_chain, reorders.request]
    case permuted =>
      rw [arguments, otherArguments]
      exact reorders.bound_perm.map Prod.snd
    case otherCounted => exact (List.length_map _).trans reorders.predicates.length_eq.symm
    case alike_of_leavesNames =>
      exact fun leaves => alike_iff.mpr (reorders.namesAlike_of_leavesNames leaves)
    case sameTruth => exact fun alike truth => conjunction_perm (alike.conjuncts.map truth)

/-- A condition that binds nothing stands between two that bind a value, or after them. -/
theorem compile_reordered_limited :
    let first : Search := {
      request := { limit := some 5 }
      predicates := [.equals .id (.text "a"), .equals .displayName .null,
        .text .defaultLanguage (.text "d") .startsWith] }
    let second : Search := {
      request := { limit := some 5 }
      predicates := [.text .defaultLanguage (.text "d") .startsWith, .equals .id (.text "a"),
        .equals .displayName .null] }
    ∃ statement other,
      first.chain.compile .standard .page = .ok statement ∧
      second.chain.compile .standard .page = .ok other ∧
      statement.arguments = [.text "a", .text "d", .int 5] ∧
      other.arguments = [.text "d", .text "a", .int 5] ∧
      (first.sections .standard .page).Alike (second.sections .standard .page) := by
  intro first second
  have reordered : ([first.predicates[0], first.predicates[1]] ++ [first.predicates[2]]).Perm
      ([first.predicates[2]] ++ [first.predicates[0], first.predicates[1]]) := List.perm_append_comm
  have reorders : first.Reorders second := ⟨rfl, reordered⟩
  have builds : first.chain.Builds := by
    intro predicate present
    simp only [predicates_chain, first, List.mem_cons, List.not_mem_nil, or_false] at present
    rcases present with rfl | rfl | rfl <;> exact ⟨nofun, _, rfl⟩
  have compiled : ∃ statement, first.chain.compile .standard .page = .ok statement := ⟨_, rfl⟩
  have noPercent : '%' ∉ (Schema.standard.tableText .instances).toList := by decide
  obtain ⟨failure, failed, -⟩ | ⟨statement, other, isStatement, isOther, same⟩ :=
    compile_reordered .standard .page reorders builds
  · obtain ⟨statement, isStatement⟩ := compiled
    rw [failed] at isStatement
    cases isStatement
  · refine ⟨statement, other, isStatement, isOther, same.arguments, same.otherArguments,
      same.alike_iff.mpr fun table isTable => ?_⟩
    cases List.mem_singleton.mp isTable
    rw [Piece.nameText_of_not_mem _ _ noPercent, Piece.nameText_of_not_mem _ _ noPercent]

/-- A table that is called like a mark is written with a number that depends on the order. -/
theorem compile_reordered_of_marked :
    let first : Search := {
      predicates := [.equals .id (.text "x"), .equals .displayName (.text "y")] }
    let second : Search := {
      predicates := [.equals .displayName (.text "y"), .equals .id (.text "x")] }
    first.Reorders second ∧ first.chain.Builds ∧
    ∃ statement other,
      first.chain.compile Chain.markedSchema .page = .ok statement ∧
      second.chain.compile Chain.markedSchema .page = .ok other ∧
      "SELECT projections.\"$1\".id".toList <+: statement.text.toList ∧
      "SELECT projections.\"$2\".id".toList <+: other.text.toList := by
  intro first second
  have reorders : first.Reorders second := ⟨rfl, .swap _ _ _⟩
  have builds : first.chain.Builds := by
    intro predicate present
    simp only [predicates_chain, first, List.mem_cons, List.not_mem_nil, or_false] at present
    rcases present with rfl | rfl <;> exact ⟨nofun, _, rfl⟩
  have inside : first.chain.StaysInside .page := by
    show ∀ column ∈ [Column.id, .displayName], column.table ∈ Selection.page.tables
    decide
  have otherInside : second.chain.StaysInside .page := reorders.staysInside_iff.mp inside
  obtain ⟨statement, isStatement, -⟩ := exists_statement_reads Chain.markedSchema builds inside
  obtain ⟨other, isOther, -⟩ :=
    exists_statement_reads Chain.markedSchema (reorders.builds builds) otherInside
  have starts := prefix_text builds inside isStatement
  have otherStarts := prefix_text (reorders.builds builds) otherInside isOther
  have firstNumber : "SELECT " ++
      Piece.nameText ["id_1", "name_1"] (Chain.markedSchema.columnText .id) =
        "SELECT projections.\"$1\".id" := by decide +kernel
  have secondNumber : "SELECT " ++
      Piece.nameText ["name_1", "id_1"] (Chain.markedSchema.columnText .id) =
        "SELECT projections.\"$2\".id" := by decide +kernel
  rw [show first.chain.labels = ["id_1", "name_1"] from rfl, firstNumber] at starts
  rw [show second.chain.labels = ["name_1", "id_1"] from rfl, secondNumber] at otherStarts
  exact ⟨reorders, builds, statement, other, isStatement, isOther, starts, otherStarts⟩

end Search

end InstanceDirectory
