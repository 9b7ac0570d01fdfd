import InstanceDirectory.Proofs.Sourcing

/-!
# Placeholders and marks in text

The placeholders of a text are read from its characters.  A statement shows the placeholders
of its bound values in order.  It shows more of them exactly when the name of one of its tables
contains the mark of a label: then the mark is replaced by a placeholder inside the name.
-/

namespace InstanceDirectory

namespace Placeholder

/-- The numbers of the placeholders in a text: of every dollar sign that digits follow. -/
def numbers : List Char -> List Nat
  | [] => []
  | first :: rest =>
      if first = '$' ∧ rest.takeWhile Char.isDigit ≠ [] then
        Nat.ofDigitChars 10 (rest.takeWhile Char.isDigit) 0 :: numbers rest
      else numbers rest

@[simp] theorem numbers_nil : numbers [] = [] := rfl

@[simp] theorem numbers_cons_of_ne
    {first : Char}
    (other : first ≠ '$')
    (rest : List Char) :
    numbers (first :: rest) = numbers rest := by
  rw [numbers, if_neg]
  intro starts
  exact other starts.1

/-- Text without a dollar sign adds no placeholder to what follows. -/
theorem numbers_append_of_not_mem
    {chars : List Char}
    (noDollar : '$' ∉ chars)
    (rest : List Char) :
    numbers (chars ++ rest) = numbers rest := by
  induction chars with
  | nil => rfl
  | cons first others othersHypothesis =>
      rw [List.mem_cons, not_or] at noDollar
      rw [List.cons_append, numbers_cons_of_ne (Ne.symm noDollar.1),
        othersHypothesis noDollar.2]

/-- A dollar sign with the digits of a number is one placeholder, unless more digits follow. -/
theorem numbers_numeral
    (number : Nat)
    (rest : List Char)
    (ends : rest.takeWhile Char.isDigit = []) :
    numbers ((Piece.numeral number).toList ++ rest) = number :: numbers rest := by
  have spelled : (Piece.numeral number).toList = '$' :: Nat.toDigits 10 number := by
    rw [Piece.numeral, String.toList_append, Nat.toString_eq_repr, Nat.toList_repr]
    rfl
  have areDigits : ∀ digit ∈ Nat.toDigits 10 number, digit.isDigit = true :=
    fun digit present => Nat.isDigit_of_mem_toDigits (by decide) (by decide) present
  have digits : (Nat.toDigits 10 number ++ rest).takeWhile Char.isDigit =
      Nat.toDigits 10 number := by
    rw [List.takeWhile_append_of_pos areDigits, ends, List.append_nil]
  have noDollar : '$' ∉ Nat.toDigits 10 number := by
    intro present
    exact absurd (areDigits '$' present) (by decide)
  rw [spelled, List.cons_append, numbers, digits, if_pos ⟨rfl, Nat.toDigits_ne_nil⟩,
    numbers_append_of_not_mem noDollar, Nat.ofDigitChars_ten_toDigits]

theorem dollar_not_mem_castName (cast : Cast) : '$' ∉ cast.name.toList := by
  rcases cast with ⟨type, array⟩
  cases type <;> cases array <;> decide

/-- A numbered placeholder with its cast is one placeholder. -/
theorem numbers_placeholder (number : Nat) (cast : Cast) (rest : List Char) :
    numbers ((Piece.placeholder number cast).toList ++ rest) = number :: numbers rest := by
  have spelled : (Piece.placeholder number cast).toList ++ rest =
      (Piece.numeral number).toList ++ (':' :: ':' :: (cast.name.toList ++ rest)) := by
    rw [Piece.placeholder, String.toList_append, String.toList_append, List.append_assoc,
      List.append_assoc]
    rfl
  rw [spelled, numbers_numeral _ _ rfl, numbers_cons_of_ne (by decide),
    numbers_cons_of_ne (by decide), numbers_append_of_not_mem (dollar_not_mem_castName cast)]

/-- Joining texts loses no placeholder. -/
theorem length_numbers_append_le (first second : List Char) :
    (numbers first).length + (numbers second).length ≤ (numbers (first ++ second)).length := by
  induction first with
  | nil => simp
  | cons head rest restHypothesis =>
      rw [List.cons_append, numbers, numbers]
      have longer : rest.takeWhile Char.isDigit ≠ [] ->
          (rest ++ second).takeWhile Char.isDigit ≠ [] := by
        cases rest with
        | nil => exact fun nonempty => absurd rfl nonempty
        | cons next others =>
            rw [List.cons_append, List.takeWhile_cons, List.takeWhile_cons]
            split <;> simp
      split
      next starts =>
        rw [if_pos ⟨starts.1, longer starts.2⟩, List.length_cons, List.length_cons]
        omega
      next =>
        split
        · rw [List.length_cons]
          omega
        · exact restHypothesis

end Placeholder

namespace Piece

open Placeholder

/-- Some characters are the mark of one of the labels. -/
def IsMarked (labels : List String) (chars : List Char) : Prop :=
  ∃ label ∈ labels, mark label <:+: chars

theorem markAt?_eq_none_iff {labels : List String} {chars : List Char} :
    markAt? labels chars = none ↔ ∀ label ∈ labels, ¬ mark label <+: chars := by
  simp only [markAt?, Option.map_eq_none_iff, List.find?_eq_none, List.isPrefixOf_iff_prefix]
  constructor
  · intro unfound label present
    obtain ⟨index, isIndex, rfl⟩ := List.mem_iff_getElem.mp present
    exact unfound (labels[index], index)
      (List.mk_mem_zipIdx_iff_getElem?.mpr (List.getElem?_eq_getElem isIndex))
  · intro unmarked entry present
    exact unmarked entry.1 (List.fst_mem_of_mem_zipIdx present)

/-- Characters without a mark are left as they are. -/
theorem numberMarks_of_not_isMarked
    {labels : List String}
    {chars : List Char}
    (unmarked : ¬ IsMarked labels chars) :
    numberMarks labels 0 chars = chars := by
  induction chars with
  | nil => rfl
  | cons first rest restHypothesis =>
      have noneHere : markAt? labels (first :: rest) = none := by
        rw [markAt?_eq_none_iff]
        intro label present starts
        exact unmarked ⟨label, present, starts.isInfix⟩
      have noneLater : ¬ IsMarked labels rest := by
        rintro ⟨label, present, occurs⟩
        exact unmarked ⟨label, present, occurs.trans (List.suffix_cons first rest).isInfix⟩
      rw [numberMarks, noneHere, restHypothesis noneLater]

/-- Characters with a mark show a placeholder. -/
theorem length_numbers_numberMarks_pos
    {labels : List String}
    {chars : List Char}
    (marked : IsMarked labels chars) :
    0 < (numbers (numberMarks labels 0 chars)).length := by
  induction chars with
  | nil =>
      obtain ⟨label, -, occurs⟩ := marked
      exact absurd (List.eq_nil_of_infix_nil occurs) nofun
  | cons first rest restHypothesis =>
      rw [numberMarks]
      split
      next shown width found =>
        obtain ⟨entry, -, same⟩ := Option.map_eq_some_iff.mp found
        cases same
        have alone := numbers_numeral (entry.2 + 1) [] rfl
        have joined := length_numbers_append_le (numeral (entry.2 + 1)).toList
          (numberMarks labels ((mark entry.1).length - 1) rest)
        rw [List.append_nil] at alone
        rw [alone, List.length_cons] at joined
        omega
      next unfound =>
        obtain ⟨label, present, occurs⟩ := marked
        rcases List.infix_cons_iff.mp occurs with starts | later
        · exact absurd starts (markAt?_eq_none_iff.mp unfound label present)
        · have shown := restHypothesis ⟨label, present, later⟩
          have joined := length_numbers_append_le [first] (numberMarks labels 0 rest)
          rw [List.singleton_append] at joined
          omega

end Piece

/-- A character that is not in a name is not in its text either, unless it is a quote. -/
theorem Identifier.not_mem_write
    {name : String}
    {c : Char}
    (absent : c ∉ name.toList)
    (noQuote : c ≠ '"') :
    c ∉ (Identifier.write name).toList := by
  unfold Identifier.write
  split
  · have quoted : c ∉ name.toList.flatMap fun other =>
        if other = '"' then ['"', '"'] else [other] := by
      intro present
      obtain ⟨other, isOther, shown⟩ := List.mem_flatMap.mp present
      split at shown
      · simp [noQuote] at shown
      · rw [List.mem_singleton] at shown
        rw [shown] at absent
        exact absent isOther
    simp [Identifier.quote, noQuote, quoted]
  · exact absent

namespace Schema

/-- The names that a schema gives. -/
def names (schema : Schema) : List String :=
  schema.schemaName.toList ++ [schema.instanceTable, schema.domainTable]

theorem tableName_mem_names (schema : Schema) (table : Table) :
    schema.tableName table ∈ schema.names := by
  cases table <;> simp [names, tableName]

/-- A table's text has no dollar sign if no name has one. -/
theorem dollar_not_mem_tableText
    {schema : Schema}
    (noDollar : ∀ name ∈ schema.names, '$' ∉ name.toList)
    (table : Table) :
    '$' ∉ (schema.tableText table).toList := by
  have ofTable := Identifier.not_mem_write
    (noDollar _ (schema.tableName_mem_names table)) (by decide : '$' ≠ '"')
  unfold tableText
  cases named : schema.schemaName with
  | none => exact ofTable
  | some qualifier =>
      simp only
      split
      · exact ofTable
      · have present : qualifier ∈ schema.names := by simp [names, named]
        have ofQualifier := Identifier.not_mem_write (noDollar _ present) (by decide : '$' ≠ '"')
        simp [ofTable, ofQualifier]

end Schema

/-- A column's text after its table has neither a dollar sign nor a percent sign. -/
theorem Column.not_mem_write_name (column : Column) :
    '$' ∉ (Identifier.write column.name).toList ∧ '%' ∉ (Identifier.write column.name).toList := by
  have plain : '$' ∉ column.name.toList ∧ '%' ∉ column.name.toList := by
    cases column <;> decide
  exact ⟨Identifier.not_mem_write plain.1 (by decide), Identifier.not_mem_write plain.2 (by decide)⟩

theorem Schema.toList_columnText (schema : Schema) (column : Column) :
    (schema.columnText column).toList =
      (schema.tableText column.table).toList ++ '.' :: (Identifier.write column.name).toList := by
  simp [columnText]

theorem Schema.dollar_not_mem_columnText
    {schema : Schema}
    (noDollar : ∀ name ∈ schema.names, '$' ∉ name.toList)
    (column : Column) :
    '$' ∉ (schema.columnText column).toList := by
  rw [toList_columnText, List.mem_append, List.mem_cons]
  rintro (inTable | isDot | inName)
  · exact dollar_not_mem_tableText noDollar column.table inTable
  · exact absurd isDot (by decide)
  · exact column.not_mem_write_name.1 inName

namespace Piece

open Placeholder

variable {labels : List String} {schema : Schema}

/-- A mark in a column's text is a mark in the text of its table. -/
theorem isMarked_columnText_iff
    (noDot : ∀ label ∈ labels, '.' ∉ mark label)
    (column : Column) :
    IsMarked labels (schema.columnText column).toList ↔
      IsMarked labels (schema.tableText column.table).toList := by
  rw [Schema.toList_columnText]
  constructor
  · rintro ⟨label, present, occurs⟩
    refine ⟨label, present, ?_⟩
    have percent : '%' ∈ mark label := List.mem_cons_self
    rcases List.infix_append_iff_ne_nil.mp occurs with
      inTable | inName | ⟨early, late, -, nonempty, same, -, starts⟩
    · exact inTable
    · rcases List.mem_cons.mp (inName.subset percent) with isDot | later
      · exact absurd isDot (by decide)
      · exact absurd later column.not_mem_write_name.2
    · cases late with
      | nil => exact absurd rfl nonempty
      | cons first rest =>
          obtain ⟨isDot, -⟩ := List.cons_prefix_cons.mp starts
          have dotPresent : '.' ∈ mark label := by
            rw [same, isDot]
            exact List.mem_append_right _ List.mem_cons_self
          exact absurd dotPresent (noDot label present)
  · rintro ⟨label, present, occurs⟩
    exact ⟨label, present, occurs.trans (List.prefix_append _ _).isInfix⟩

/-- Fixed words show no placeholder, and the labels of bound values have no dot. -/
def IsPlain : Piece -> Prop
  | words text => '$' ∉ text.toList
  | table _ => True
  | column _ => True
  | bound stem _ _ => '.' ∉ stem.toList

instance : DecidablePred IsPlain
  | words text => inferInstanceAs (Decidable ('$' ∉ text.toList))
  | table _ => inferInstanceAs (Decidable True)
  | column _ => inferInstanceAs (Decidable True)
  | bound stem _ _ => inferInstanceAs (Decidable ('.' ∉ stem.toList))

@[simp] theorem isPlain_words (text : String) : (words text).IsPlain ↔ '$' ∉ text.toList := Iff.rfl

@[simp] theorem isPlain_table (name : Table) : (table name).IsPlain := trivial

@[simp] theorem isPlain_column (name : Column) : (column name).IsPlain := trivial

@[simp] theorem isPlain_bound (stem : String) (value : Value) (cast : Cast) :
    (bound stem value cast).IsPlain ↔ '.' ∉ stem.toList := Iff.rfl

/-- The labels of stems are made of these. -/
theorem exists_stem_of_mem_countStems
    {earlier stems : List String}
    {label : String}
    (present : label ∈ countStems earlier stems) :
    ∃ stem ∈ stems, ∃ number : Nat, label = stem ++ "_" ++ toString number := by
  induction stems generalizing earlier with
  | nil => cases present
  | cons stem stems stemsHypothesis =>
      rcases List.mem_cons.mp present with same | later
      · exact ⟨stem, List.mem_cons_self, _, same⟩
      · obtain ⟨other, isOther, number, same⟩ := stemsHypothesis later
        exact ⟨other, List.mem_cons_of_mem _ isOther, number, same⟩

/-- No mark of plain pieces contains a dot. -/
theorem dot_not_mem_mark
    {pieces : List Piece}
    (plain : ∀ piece ∈ pieces, piece.IsPlain) :
    ∀ label ∈ Piece.labels pieces, '.' ∉ mark label := by
  intro label present dot
  obtain ⟨stem, isStem, number, rfl⟩ := exists_stem_of_mem_countStems present
  obtain ⟨piece, isPiece, ofPiece⟩ := List.mem_filterMap.mp isStem
  have noDot : '.' ∉ stem.toList := by
    have isPlain := plain piece isPiece
    cases piece <;> cases ofPiece
    exact isPlain
  have noDigit : '.' ∉ Nat.toDigits 10 number := by
    intro isDigit
    exact absurd (Nat.isDigit_of_mem_toDigits (by decide) (by decide) isDigit) (by decide)
  simp [mark, noDot, noDigit] at dot

theorem toList_nameText (name : String) :
    (nameText labels name).toList = numberMarks labels 0 name.toList := by
  rw [nameText, String.toList_ofList]

/-- A name without a mark shows no placeholder if it has no dollar sign. -/
theorem numbers_nameText_append
    {name : String}
    (noDollar : '$' ∉ name.toList)
    (unmarked : ¬ IsMarked labels name.toList)
    (rest : List Char) :
    numbers ((nameText labels name).toList ++ rest) = numbers rest := by
  rw [nameText, String.toList_ofList, numberMarks_of_not_isMarked unmarked,
    numbers_append_of_not_mem noDollar]

/-- Plain pieces with unmarked names show the placeholders of their bound values. -/
theorem numbers_write
    {pieces : List Piece}
    (noDollar : ∀ name ∈ schema.names, '$' ∉ name.toList)
    (noDot : ∀ label ∈ labels, '.' ∉ mark label)
    (plain : ∀ piece ∈ pieces, piece.IsPlain)
    (unmarked : ∀ table ∈ tables pieces, ¬ IsMarked labels (schema.tableText table).toList)
    (number : Nat) :
    numbers (write schema labels number pieces).toList =
      List.range' number (arguments pieces).length := by
  induction pieces generalizing number with
  | nil => rfl
  | cons piece pieces piecesHypothesis =>
      rw [List.forall_mem_cons] at plain
      cases piece with
      | words text =>
          rw [write, String.toList_append, numbers_append_of_not_mem plain.1,
            piecesHypothesis plain.2 unmarked, arguments_words]
      | table name =>
          rw [tables_table, List.forall_mem_cons] at unmarked
          rw [write, String.toList_append,
            numbers_nameText_append (Schema.dollar_not_mem_tableText noDollar name) unmarked.1,
            piecesHypothesis plain.2 unmarked.2, arguments_table]
      | column name =>
          rw [tables_column, List.forall_mem_cons, ← isMarked_columnText_iff noDot] at unmarked
          rw [write, String.toList_append,
            numbers_nameText_append (Schema.dollar_not_mem_columnText noDollar name) unmarked.1,
            piecesHypothesis plain.2 unmarked.2, arguments_column]
      | bound stem value cast =>
          rw [write, String.toList_append, numbers_placeholder,
            piecesHypothesis plain.2 unmarked, arguments_bound, List.length_cons,
            List.range'_succ]

/-- Pieces with unmarked names are written as they would be without labels. -/
theorem write_of_unmarked
    {pieces : List Piece}
    (noDot : ∀ label ∈ labels, '.' ∉ mark label)
    (unmarked : ∀ table ∈ tables pieces, ¬ IsMarked labels (schema.tableText table).toList)
    (number : Nat) :
    write schema labels number pieces = write schema [] number pieces := by
  have asItIs {name : String} (unmarked : ¬ IsMarked labels name.toList) :
      nameText labels name = nameText [] name := by
    have without : ¬ IsMarked [] name.toList := by
      rintro ⟨label, present, -⟩
      cases present
    rw [nameText, nameText, numberMarks_of_not_isMarked unmarked,
      numberMarks_of_not_isMarked without]
  induction pieces generalizing number with
  | nil => rfl
  | cons piece pieces piecesHypothesis =>
      cases piece with
      | words text => rw [write, write, piecesHypothesis unmarked]
      | table name =>
          rw [tables_table, List.forall_mem_cons] at unmarked
          rw [write, write, asItIs unmarked.1, piecesHypothesis unmarked.2]
      | column name =>
          rw [tables_column, List.forall_mem_cons, ← isMarked_columnText_iff noDot] at unmarked
          rw [write, write, asItIs unmarked.1, piecesHypothesis unmarked.2]
      | bound stem value cast => rw [write, write, piecesHypothesis unmarked]

/-- Every bound value shows a placeholder. -/
theorem length_arguments_le_numbers_write (number : Nat) (pieces : List Piece) :
    (arguments pieces).length ≤ (numbers (write schema labels number pieces).toList).length := by
  induction pieces generalizing number with
  | nil => exact Nat.zero_le _
  | cons piece pieces piecesHypothesis =>
      have later (chars : List Char) : (arguments pieces).length ≤
          (numbers (chars ++ (write schema labels number pieces).toList)).length := by
        have joined := length_numbers_append_le chars (write schema labels number pieces).toList
        have rest := piecesHypothesis number
        omega
      cases piece with
      | words text =>
          rw [write, String.toList_append]
          exact later _
      | table name =>
          rw [write, String.toList_append]
          exact later _
      | column name =>
          rw [write, String.toList_append]
          exact later _
      | bound stem value cast =>
          rw [write, String.toList_append, numbers_placeholder, arguments_bound]
          exact Nat.succ_le_succ (piecesHypothesis (number + 1))

/-- The text of a marked name shows a placeholder that belongs to no bound value. -/
theorem length_arguments_lt_numbers_write
    {pieces : List Piece}
    {name : Table}
    (mentioned : .table name ∈ pieces)
    (marked : IsMarked labels (schema.tableText name).toList)
    (number : Nat) :
    (arguments pieces).length < (numbers (write schema labels number pieces).toList).length := by
  obtain ⟨before, after, rfl⟩ := List.append_of_mem mentioned
  rw [write_append, write, String.toList_append, String.toList_append, arguments_append,
    arguments_table, List.length_append, toList_nameText]
  have early := @length_arguments_le_numbers_write labels schema number before
  have late := @length_arguments_le_numbers_write labels schema
    (number + (arguments before).length) after
  have shown := length_numbers_numberMarks_pos marked
  have joinedLate := length_numbers_append_le
    (numberMarks labels 0 (schema.tableText name).toList)
    (write schema labels (number + (arguments before).length) after).toList
  have joined := length_numbers_append_le (write schema labels number before).toList
    (numberMarks labels 0 (schema.tableText name).toList ++
      (write schema labels (number + (arguments before).length) after).toList)
  omega

end Piece
end InstanceDirectory
