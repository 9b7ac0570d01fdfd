import InstanceDirectory.Proofs.Chaining

/-!
# Statement text without values

Two chains are alike when they agree in everything but the values of their callers.  They
compile to the same text with the same number of arguments, because blanking the bound values
of a statement leaves its text as it is, and the blanked pieces of a chain depend only on what
alike chains share.
-/

namespace InstanceDirectory

namespace Piece

/-- A piece without the value that it binds. -/
def blank : Piece -> Piece
  | bound stem _ cast => bound stem .null cast
  | piece => piece

@[simp] theorem blank_words (text : String) : (words text).blank = words text := rfl

@[simp] theorem blank_table (name : Table) : (table name).blank = table name := rfl

@[simp] theorem blank_column (name : Column) : (column name).blank = column name := rfl

@[simp] theorem blank_bound (stem : String) (value : Value) (cast : Cast) :
    (bound stem value cast).blank = bound stem .null cast := rfl

theorem write_blank
    (schema : Schema)
    (labels : List String)
    (number : Nat)
    (pieces : List Piece) :
    write schema labels number (pieces.map blank) = write schema labels number pieces := by
  induction pieces generalizing number with
  | nil => rfl
  | cons piece pieces piecesHypothesis =>
      cases piece with
      | words text => simp only [List.map_cons, blank_words, write, piecesHypothesis]
      | table name => simp only [List.map_cons, blank_table, write, piecesHypothesis]
      | column name => simp only [List.map_cons, blank_column, write, piecesHypothesis]
      | bound stem value cast => simp only [List.map_cons, blank_bound, write, piecesHypothesis]

/-- Labels count stems, and blanking keeps the stems. -/
theorem labels_blank (pieces : List Piece) : labels (pieces.map blank) = labels pieces := by
  have sameStem (piece : Piece) : piece.blank.stem? = piece.stem? := by
    cases piece <;> rfl
  have sameStems : (pieces.map blank).filterMap stem? = pieces.filterMap stem? := by
    rw [List.filterMap_map]
    exact List.filterMap_congr fun piece _ => sameStem piece
  rw [labels, labels, sameStems]

/-- Blanking changes neither the text of a statement nor the number of its arguments. -/
theorem text_blank (schema : Schema) (pieces : List Piece) :
    text schema (pieces.map blank) = text schema pieces := by
  rw [text, text, labels_blank, write_blank]

theorem length_arguments_blank (pieces : List Piece) :
    (arguments (pieces.map blank)).length = (arguments pieces).length := by
  induction pieces with
  | nil => rfl
  | cons piece pieces piecesHypothesis => cases piece <;> simp [piecesHypothesis]

theorem map_blank_separated (separator : String) (sequences : List (List Piece)) :
    (separated separator sequences).map blank =
      separated separator (sequences.map (List.map blank)) := by
  induction sequences using separated.induct with
  | case1 => rfl
  | case2 pieces => rfl
  | case3 pieces rest nonempty restHypothesis =>
      cases rest with
      | nil => exact absurd rfl nonempty
      | cons second others => simp [separated, restHypothesis]

end Piece

/-- What statement text shows of a value that a column is compared with for equality. -/
inductive Binding where
  | null
  | truth (truth : Bool)
  /-- The value is bound with a cast to the type. -/
  | bound (type : SqlType)
deriving DecidableEq

/-- What statement text shows of a value. -/
def Value.binding (column : Column) : Value -> Binding
  | null => .null
  | bool truth => .truth truth
  | value => .bound (Clause.valueType column value)

/-- The value is a text. -/
def Value.isText : Value -> Bool
  | text _ => true
  | _ => false

/-- The predicates agree in everything but the values of their callers. -/
inductive Predicate.Alike : Predicate -> Predicate -> Prop where
  | equals {column : Column} {first second : Value} :
      first.binding column = second.binding column ->
      Alike (.equals column first) (.equals column second)
  | anyOf (column : Column) {first second : List Value}
      (firstNonempty : first ≠ []) (secondNonempty : second ≠ []) :
      Alike (.anyOf column first firstNonempty) (.anyOf column second secondNonempty)
  | textEquals {column : Column} {first second : Value} :
      first.binding column = second.binding column ->
      Alike (.text column first .equals) (.text column second .equals)
  | ignoringCase (column : Column) (first second : Value) :
      Alike (.text column first .equalsIgnoreCase) (.text column second .equalsIgnoreCase)
  | startsWith {column : Column} {first second : Value} :
      first.isText = second.isText ->
      Alike (.text column first .startsWith) (.text column second .startsWith)
  | contains {column : Column} {first second : Value} :
      first.isText = second.isText ->
      Alike (.text column first .contains) (.text column second .contains)
  | unstated : Alike .unstated .unstated
  | foreign (failure : Failure) : Alike (.foreign failure) (.foreign failure)

/-- The type to which a bound on the matches is cast. -/
def PageRequest.boundType (bound : Nat) : SqlType :=
  Clause.integerType bound

/-- The page requests sort alike and set the same bounds, up to numbers of the same type. -/
structure PageRequest.Alike (first second : PageRequest) : Prop where
  sorting : first.sorting = second.sorting
  ascending : first.ascending = second.ascending
  limit : first.limit.map boundType = second.limit.map boundType
  offset : first.offset.map boundType = second.offset.map boundType

/-- The steps agree in everything but the values of their callers. -/
inductive Step.Alike : Step -> Step -> Prop where
  | filter {first second : List Predicate} :
      List.Forall₂ Predicate.Alike first second -> Alike (.filter first) (.filter second)
  | paginate {first second : PageRequest} :
      first.Alike second -> Alike (.paginate first) (.paginate second)
  | search {first second : Search} :
      first.request.Alike second.request ->
      List.Forall₂ Predicate.Alike first.predicates second.predicates ->
      Alike (.search first) (.search second)

/-- The chains agree step by step in everything but the values of their callers. -/
def Chain.Alike (first second : Chain) : Prop :=
  List.Forall₂ Step.Alike first second

namespace Clause

/-- What statement text shows of a condition. -/
def mask (clause : Clause) : Option Column × Except Failure (List Piece) :=
  (clause.column?, clause.conjunctPieces.map (List.map Piece.blank))

/-- The mask of an equality with a value that is shown as the given binding. -/
def equalityMask (column : Column) : Binding -> Option Column × Except Failure (List Piece)
  | .null => (some column, .ok [.column column, .words " IS NULL"])
  | .truth truth =>
      (some column, .ok [.column column, .words (if truth then " = true" else " = false")])
  | .bound type =>
      (some column, .ok [.column column, .words " = ", .bound column.name .null { type }])

theorem mask_equality (column : Column) (value : Value) :
    (equality column value).mask = equalityMask column (value.binding column) := by
  cases value <;> rfl

theorem ofPredicate_startsWith (column : Column) (value : Value) :
    (ofPredicate (.text column value .startsWith)).map mask =
      if value.isText then .ok (startsWith column "").mask
      else .error (.type "String value expected when autoescape=True") := by
  cases value <;> rfl

theorem ofPredicate_contains (column : Column) (value : Value) :
    (ofPredicate (.text column value .contains)).map mask =
      if value.isText then .ok (contains column "").mask
      else .error (.type "String value expected when autoescape=True") := by
  cases value <;> rfl

/-- Alike predicates fail alike or state conditions with the same mask. -/
theorem mask_of_alike
    {first second : Predicate}
    (alike : first.Alike second) :
    (ofPredicate first).map mask = (ofPredicate second).map mask := by
  cases alike with
  | @equals column first second sameBinding =>
      show Except.ok (equality column first).mask = .ok (equality column second).mask
      rw [mask_equality, mask_equality, sameBinding]
  | anyOf column firstNonempty secondNonempty => rfl
  | @textEquals column first second sameBinding =>
      show Except.ok (equality column first).mask = .ok (equality column second).mask
      rw [mask_equality, mask_equality, sameBinding]
  | ignoringCase column first second => rfl
  | startsWith sameKind => rw [ofPredicate_startsWith, ofPredicate_startsWith, sameKind]
  | contains sameKind => rw [ofPredicate_contains, ofPredicate_contains, sameKind]
  | unstated => rfl
  | foreign failure => rfl

end Clause

/-- Computations that agree up to a mask fail alike or answer what the mask does not tell apart. -/
theorem cases_of_map_eq
    {first second : Except ε α}
    {mask : α -> β}
    (same : first.map mask = second.map mask) :
    (∃ failure, first = .error failure ∧ second = .error failure) ∨
    ∃ one other, first = .ok one ∧ second = .ok other ∧ mask one = mask other := by
  cases first with
  | error failure =>
      cases second with
      | error other =>
          cases same
          exact .inl ⟨failure, rfl, rfl⟩
      | ok other => cases same
  | ok one =>
      cases second with
      | error failure => cases same
      | ok other => exact .inr ⟨one, other, rfl, rfl, Except.ok.inj same⟩

/-- Computations over two lists agree up to a mask if they do so element by element. -/
theorem mapM_map_congr
    {compute : α -> Except ε β}
    {mask : β -> γ}
    {first second : List α}
    (agree : List.Forall₂
      (fun one other => (compute one).map mask = (compute other).map mask) first second) :
    (first.mapM compute).map (List.map mask) = (second.mapM compute).map (List.map mask) := by
  induction agree with
  | nil => rfl
  | @cons one other rest others same _ restHypothesis =>
      rw [List.mapM_cons, List.mapM_cons]
      revert same restHypothesis
      cases compute one <;> cases compute other <;> cases rest.mapM compute <;>
        cases others.mapM compute <;>
        simp +contextual [Except.map, bind, Except.bind, pure, Except.pure]

/-- The page requests of alike steps are alike. -/
theorem Step.Alike.request {one other : Step} (alike : one.Alike other) :
    one.request.Alike other.request := by
  cases alike with
  | filter predicatesAlike => exact ⟨rfl, rfl, rfl, rfl⟩
  | paginate requestAlike => exact requestAlike
  | search requestAlike predicatesAlike => exact requestAlike

namespace Chain.Alike

variable {first second : Chain}

theorem predicates (alike : first.Alike second) :
    List.Forall₂ Predicate.Alike first.predicates second.predicates := by
  induction alike with
  | nil => exact .nil
  | cons stepAlike _ restHypothesis =>
      refine List.rel_append ?_ restHypothesis
      cases stepAlike with
      | filter predicatesAlike => exact predicatesAlike
      | paginate requestAlike => exact .nil
      | search requestAlike predicatesAlike => exact predicatesAlike

theorem ordering (alike : first.Alike second) : first.ordering = second.ordering := by
  induction alike with
  | nil => rfl
  | @cons one other _ _ stepAlike _ restHypothesis =>
      have same : one.sorting? = other.sorting? := by
        rw [Step.sorting?, Step.sorting?, stepAlike.request.sorting, stepAlike.request.ascending]
      unfold Chain.ordering at restHypothesis ⊢
      rw [List.filterMap_cons, List.filterMap_cons, same, restHypothesis]

/-- A bound that alike chains set last has the same type. -/
theorem last
    {bound : PageRequest -> Option Nat}
    (agree : ∀ {one other : PageRequest}, one.Alike other ->
      (bound one).map PageRequest.boundType = (bound other).map PageRequest.boundType)
    (alike : first.Alike second) :
    ((first.filterMap fun step => bound step.request).getLast?).map PageRequest.boundType =
      ((second.filterMap fun step => bound step.request).getLast?).map PageRequest.boundType := by
  rw [← List.getLast?_map, ← List.getLast?_map, List.map_filterMap, List.map_filterMap]
  congr 1
  induction alike with
  | nil => rfl
  | cons stepAlike _ restHypothesis =>
      rw [List.filterMap_cons, List.filterMap_cons, agree stepAlike.request, restHypothesis]

end Chain.Alike

namespace Draft

/-- What statement text shows of a limit and an offset, given the types of their numbers. -/
def windowMask : Option SqlType -> Option SqlType -> List Piece
  | none, none => []
  | some limit, none => [.words " \n LIMIT ", .bound Clause.freeStem .null { type := limit }]
  | some limit, some offset =>
      [.words " \n LIMIT ", .bound Clause.freeStem .null { type := limit }, .words " OFFSET ",
        .bound Clause.freeStem .null { type := offset }]
  | none, some offset =>
      [.words "\n LIMIT ALL OFFSET ", .bound Clause.freeStem .null { type := offset }]

theorem map_blank_windowPieces (draft : Draft) :
    draft.windowPieces.map Piece.blank =
      windowMask (draft.limit.map PageRequest.boundType)
        (draft.offset.map PageRequest.boundType) := by
  unfold windowPieces
  cases draft.limit <;> cases draft.offset <;> rfl

theorem map_blank_wherePieces (conjuncts : List (List Piece)) :
    (wherePieces conjuncts).map Piece.blank =
      wherePieces (conjuncts.map (List.map Piece.blank)) := by
  cases conjuncts with
  | nil => rfl
  | cons first rest =>
      show (Piece.words _ :: Piece.separated " AND " (first :: rest)).map Piece.blank = _
      rw [List.map_cons, Piece.map_blank_separated]
      rfl

/-- The pieces of a draft without values depend on what alike chains share. -/
theorem map_blank_piecesAround
    {first second : Chain}
    {firstConjuncts secondConjuncts : List (List Piece)}
    (alike : first.Alike second)
    (sameConjuncts : firstConjuncts.map (List.map Piece.blank) =
      secondConjuncts.map (List.map Piece.blank))
    (selection : Selection)
    (firstConditions secondConditions : List Clause) :
    ((first.draft selection firstConditions).piecesAround firstConjuncts).map Piece.blank =
      ((second.draft selection secondConditions).piecesAround secondConjuncts).map
        Piece.blank := by
  have sameHead : (first.draft selection firstConditions).headPieces =
      (second.draft selection secondConditions).headPieces := rfl
  have sameOrdering : (first.draft selection firstConditions).orderingPieces =
      (second.draft selection secondConditions).orderingPieces := by
    have sameTerms : (first.draft selection firstConditions).ordering =
        (second.draft selection secondConditions).ordering := alike.ordering
    unfold orderingPieces
    rw [sameTerms]
  have sameLimit : first.limit?.map PageRequest.boundType =
      second.limit?.map PageRequest.boundType := alike.last PageRequest.Alike.limit
  have sameOffset : first.offset?.map PageRequest.boundType =
      second.offset?.map PageRequest.boundType := alike.last PageRequest.Alike.offset
  simp only [piecesAround, List.map_append, map_blank_wherePieces, map_blank_windowPieces,
    sameHead, sameOrdering, sameConjuncts]
  simp only [Chain.draft, sameLimit, sameOffset]

end Draft

/-- Both computations fail alike, or answer the same text with as many arguments. -/
inductive Statement.SameText : Except Failure Statement -> Except Failure Statement -> Prop where
  | rejected (failure : Failure) : SameText (.error failure) (.error failure)
  | compiled {first second : Statement} :
      first.text = second.text -> first.arguments.length = second.arguments.length ->
      SameText (.ok first) (.ok second)

/-- Pieces that are the same without values make the same text with as many arguments. -/
theorem Piece.sameText
    {first second : List Piece}
    (same : first.map blank = second.map blank)
    (schema : Schema) :
    Statement.SameText
      (.ok { text := text schema first, arguments := arguments first })
      (.ok { text := text schema second, arguments := arguments second }) := by
  apply Statement.SameText.compiled
  · show text schema first = text schema second
    rw [← text_blank, same, text_blank]
  · show (arguments first).length = (arguments second).length
    rw [← length_arguments_blank, same, length_arguments_blank]

/-- The drafts of alike chains compile alike if their conditions have the same masks. -/
theorem Draft.compile_of_sameMasks
    {first second : Chain}
    {firstConditions secondConditions : List Clause}
    (alike : first.Alike second)
    (sameMasks : firstConditions.map Clause.mask = secondConditions.map Clause.mask)
    (schema : Schema)
    (selection : Selection) :
    Statement.SameText
      ((first.draft selection firstConditions).compile schema)
      ((second.draft selection secondConditions).compile schema) := by
  have sameColumns : firstConditions.filterMap Clause.column? =
      secondConditions.filterMap Clause.column? := by
    have columns := congrArg (List.filterMap Prod.fst) sameMasks
    rw [List.filterMap_map, List.filterMap_map] at columns
    exact columns
  have sameSource : (first.draft selection firstConditions).readsOutsideSource =
      (second.draft selection secondConditions).readsOutsideSource := by
    simp only [readsOutsideSource, usedColumns, sortColumns, Chain.draft, sameColumns,
      alike.ordering]
  have sameConjuncts : (firstConditions.mapM Clause.conjunctPieces).map
        (List.map (List.map Piece.blank)) =
      (secondConditions.mapM Clause.conjunctPieces).map (List.map (List.map Piece.blank)) := by
    apply mapM_map_congr
    have related : List.Forall₂ Eq (firstConditions.map Clause.mask)
        (secondConditions.map Clause.mask) := by
      rw [sameMasks]
      exact List.forall₂_same.mpr fun _ _ => rfl
    rw [List.forall₂_map_left_iff, List.forall₂_map_right_iff] at related
    exact related.imp fun _ _ same => congrArg Prod.snd same
  unfold compile
  rw [sameSource, pieces_eq, pieces_eq]
  cases (second.draft selection secondConditions).readsOutsideSource with
  | true => exact .rejected _
  | false =>
      have firstWrites : (first.draft selection firstConditions).conditions = firstConditions := rfl
      have secondWrites :
          (second.draft selection secondConditions).conditions = secondConditions := rfl
      rw [firstWrites, secondWrites]
      rcases cases_of_map_eq sameConjuncts with
        ⟨failure, firstFails, secondFails⟩ | ⟨one, other, firstWritten, secondWritten, sameBlank⟩
      · rw [firstFails, secondFails]
        exact .rejected _
      · rw [firstWritten, secondWritten]
        exact Piece.sameText (map_blank_piecesAround alike sameBlank selection _ _) schema

namespace Chain

/--
Chains that agree in everything but the values of their callers compile to the same text with
the same number of arguments, or are rejected alike.
-/
theorem compile_sameText
    {first second : Chain}
    (alike : first.Alike second)
    (schema : Schema)
    (selection : Selection) :
    Statement.SameText (first.compile schema selection) (second.compile schema selection) := by
  have sameMasks : (first.predicates.mapM Clause.ofPredicate).map (List.map Clause.mask) =
      (second.predicates.mapM Clause.ofPredicate).map (List.map Clause.mask) :=
    mapM_map_congr (alike.predicates.imp fun _ _ => Clause.mask_of_alike)
  rw [compile_eq, compile_eq]
  rcases cases_of_map_eq sameMasks with
    ⟨failure, firstFails, secondFails⟩ | ⟨one, other, firstStated, secondStated, sameConditions⟩
  · rw [firstFails, secondFails]
    exact .rejected _
  · rw [firstStated, secondStated]
    exact Draft.compile_of_sameMasks alike sameConditions schema selection

/-- A hostile identity and a large page leave the text as a harmless one and a small page do. -/
theorem sameText_of_hostileIdentity :
    ∃ first second,
      Chain.compile [.filter [.equals .id (.text "x' OR 1=1 --")], .paginate { limit := some 100 }]
        .standard .page = .ok first ∧
      Chain.compile [.filter [.equals .id (.text "a")], .paginate { limit := some 1 }]
        .standard .page = .ok second ∧
      first.text = second.text ∧ first.arguments.length = second.arguments.length := by
  have alike : Chain.Alike
      [.filter [.equals .id (.text "x' OR 1=1 --")], .paginate { limit := some 100 }]
      [.filter [.equals .id (.text "a")], .paginate { limit := some 1 }] :=
    .cons (.filter (.cons (.equals rfl) .nil)) (.cons (.paginate ⟨rfl, rfl, rfl, rfl⟩) .nil)
  cases compile_sameText alike .standard .page with
  | compiled sameText sameNumber => exact ⟨_, _, rfl, rfl, sameText, sameNumber⟩

end Chain
end InstanceDirectory
