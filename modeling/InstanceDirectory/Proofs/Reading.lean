import InstanceDirectory.Proofs.Numbering

/-!
# Statements with their arguments in place

The text of a statement shows its bound values by numbers.  Read with the argument of every
number in its place, it has the sections of a select: what is returned and read, the
conditions, the ordering, and the limit and offset.  Every statement of a search reads as the
sections that its request and each of its predicates ask for.
-/

namespace InstanceDirectory

/-- A fragment of statement text: fixed characters, or a bound value with its cast. -/
inductive Fragment (α : Type) where
  | verbatim (text : String)
  | bound (value : α) (cast : Cast)

namespace Fragment

/-- A fragment with another value in place of the bound one. -/
def map (change : α -> β) : Fragment α -> Fragment β
  | verbatim text => verbatim text
  | bound value cast => bound (change value) cast

/-- The text of a fragment that shows its bound value by a number. -/
def text : Fragment Nat -> String
  | verbatim text => text
  | bound number cast => Piece.placeholder number cast

/-- The text of fragments, one after another. -/
def joined (fragments : List (Fragment Nat)) : String :=
  String.join (fragments.map text)

@[simp] theorem joined_nil : joined [] = "" := rfl

@[simp] theorem joined_cons (fragment : Fragment Nat) (fragments : List (Fragment Nat)) :
    joined (fragment :: fragments) = fragment.text ++ joined fragments :=
  String.join_cons

end Fragment

/-- The sections of the text of a select, each a list of items. -/
@[ext]
structure Sections (α : Type) where
  /-- What the select returns. -/
  selectList : List α
  /-- What the select reads. -/
  source : List α
  /-- The conditions, each a list of items. -/
  conjuncts : List (List α)
  /-- The ordering of the rows. -/
  ordering : List α
  /-- The limit and the offset. -/
  window : List α

namespace Sections

/-- Sections with every item changed. -/
def map (change : α -> β) (sections : Sections α) : Sections β where
  selectList := sections.selectList.map change
  source := sections.source.map change
  conjuncts := sections.conjuncts.map (List.map change)
  ordering := sections.ordering.map change
  window := sections.window.map change

/-- The text of a select with numbered placeholders. -/
def text (sections : Sections (Fragment Nat)) : String :=
  "SELECT " ++ Fragment.joined sections.selectList
    ++ " \nFROM " ++ Fragment.joined sections.source
    ++ (if sections.conjuncts.isEmpty then ""
      else " \nWHERE " ++ " AND ".intercalate (sections.conjuncts.map Fragment.joined))
    ++ Fragment.joined sections.ordering
    ++ Fragment.joined sections.window

end Sections

/-- The argument that a numbered placeholder stands for. -/
def argument? (arguments : List Value) : Nat -> Option Value
  | 0 => none
  | index + 1 => arguments[index]?

/--
A statement reads as sections with values when its text is their text with a number for every
value, and every number is that of the argument which is the value.
-/
def Statement.Reads (statement : Statement) (sections : Sections (Fragment Value)) : Prop :=
  ∃ numbered : Sections (Fragment Nat),
    statement.text = numbered.text ∧
    numbered.map (Fragment.map (argument? statement.arguments)) =
      sections.map (Fragment.map some)

namespace Piece

section Numbered

variable (schema : Schema) (labels : List String)

/-- A piece with its bound value in it, among bound values with the given labels. -/
def fragment : Piece -> Fragment Value
  | words text => .verbatim text
  | table name => .verbatim (nameText labels (schema.tableText name))
  | column name => .verbatim (nameText labels (schema.columnText name))
  | bound _ value cast => .bound value cast

/-- Pieces with numbers for their bound values, from the given one on. -/
def numbered : Nat -> List Piece -> List (Fragment Nat)
  | _, [] => []
  | number, words text :: pieces => .verbatim text :: numbered number pieces
  | number, table name :: pieces =>
      .verbatim (nameText labels (schema.tableText name)) :: numbered number pieces
  | number, column name :: pieces =>
      .verbatim (nameText labels (schema.columnText name)) :: numbered number pieces
  | number, bound _ _ cast :: pieces => .bound number cast :: numbered (number + 1) pieces

/-- Sequences of pieces with numbers for their bound values, from the given one on. -/
def numberedEach : Nat -> List (List Piece) -> List (List (Fragment Nat))
  | _, [] => []
  | number, pieces :: rest =>
      numbered schema labels number pieces
        :: numberedEach (number + (arguments pieces).length) rest

theorem isEmpty_numberedEach (number : Nat) (sequences : List (List Piece)) :
    (numberedEach schema labels number sequences).isEmpty = sequences.isEmpty := by
  cases sequences <;> rfl

/-- Numbered pieces have the text of the pieces. -/
theorem joined_numbered (number : Nat) (pieces : List Piece) :
    Fragment.joined (numbered schema labels number pieces) = write schema labels number pieces := by
  induction pieces generalizing number with
  | nil => rfl
  | cons piece pieces piecesHypothesis =>
      cases piece <;> simp only [numbered, write, Fragment.joined_cons, Fragment.text,
        piecesHypothesis]

/-- Numbered sequences have the text of the sequences, with the same words between them. -/
theorem intercalate_numberedEach
    (separator : String)
    (number : Nat)
    (sequences : List (List Piece)) :
    separator.intercalate ((numberedEach schema labels number sequences).map Fragment.joined) =
      write schema labels number (separated separator sequences) := by
  induction sequences using separated.induct generalizing number with
  | case1 => rfl
  | case2 pieces => simp [numberedEach, separated, joined_numbered]
  | case3 pieces rest nonempty restHypothesis =>
      have remains : (numberedEach schema labels (number + (arguments pieces).length) rest).map
          Fragment.joined ≠ [] := by
        rw [Ne, List.map_eq_nil_iff, ← List.isEmpty_iff, isEmpty_numberedEach, List.isEmpty_iff]
        exact nonempty
      rw [numberedEach, List.map_cons, String.intercalate_cons_of_ne_nil remains,
        restHypothesis, joined_numbered, separated, write_append, write, String.append_assoc]
      exact nonempty

/-- Words between sequences bind nothing. -/
theorem arguments_separated (separator : String) (sequences : List (List Piece)) :
    arguments (separated separator sequences) = arguments sequences.flatten := by
  induction sequences using separated.induct with
  | case1 => rfl
  | case2 pieces => simp [separated]
  | case3 pieces rest nonempty restHypothesis => simp [separated, restHypothesis]

/-- The number after as many arguments is that of the next one. -/
theorem argument?_append_cons (before : List Value) (value : Value) (after : List Value) :
    argument? (before ++ value :: after) (before.length + 1) = some value := by
  rw [argument?, List.getElem?_append_right (Nat.le_refl _), Nat.sub_self, List.getElem?_cons_zero]

/-- Among arguments that hold their values in order, numbered pieces have these values. -/
theorem map_argument?_numbered (pieces : List Piece) (before after : List Value) :
    (numbered schema labels (before.length + 1) pieces).map
        (Fragment.map (argument? (before ++ arguments pieces ++ after))) =
      (pieces.map (fragment schema labels)).map (Fragment.map some) := by
  induction pieces generalizing before with
  | nil => rfl
  | cons piece pieces piecesHypothesis =>
      cases piece with
      | words text =>
          rw [numbered, arguments_words, List.map_cons, piecesHypothesis]
          rfl
      | table name =>
          rw [numbered, arguments_table, List.map_cons, piecesHypothesis]
          rfl
      | column name =>
          rw [numbered, arguments_column, List.map_cons, piecesHypothesis]
          rfl
      | bound stem value cast =>
          have moved : before ++ (value :: arguments pieces) ++ after =
              (before ++ [value]) ++ arguments pieces ++ after := by simp
          have rest := piecesHypothesis (before ++ [value])
          rw [List.length_append, List.length_singleton] at rest
          rw [numbered, arguments_bound, List.map_cons, moved, rest, Fragment.map, ← moved,
            List.append_assoc, List.cons_append, argument?_append_cons]
          rfl

/-- Among arguments that hold their values in order, numbered sequences have these values. -/
theorem map_argument?_numberedEach
    (sequences : List (List Piece))
    (before after : List Value) :
    (numberedEach schema labels (before.length + 1) sequences).map
        (List.map (Fragment.map (argument? (before ++ arguments sequences.flatten ++ after)))) =
      (sequences.map (List.map (fragment schema labels))).map (List.map (Fragment.map some)) := by
  induction sequences generalizing before with
  | nil => rfl
  | cons pieces rest restHypothesis =>
      have here :=
        map_argument?_numbered schema labels pieces before (arguments rest.flatten ++ after)
      have later := restHypothesis (before ++ arguments pieces)
      rw [List.length_append, Nat.add_right_comm] at later
      have moved : before ++ arguments (pieces :: rest).flatten ++ after =
          before ++ arguments pieces ++ (arguments rest.flatten ++ after) := by simp
      rw [numberedEach, List.map_cons, moved, here, ← List.append_assoc, later]
      rfl

end Numbered

end Piece

/-! ## The sections of a draft -/

namespace Sections

/-- The values that sections bind in their conditions and their window. -/
def arguments (sections : Sections Piece) : List Value :=
  Piece.arguments sections.conjuncts.flatten ++ Piece.arguments sections.window

/-- Sections that bind values in their conditions and their window only. -/
structure BindsLast (sections : Sections Piece) : Prop where
  selectList : Piece.arguments sections.selectList = []
  source : Piece.arguments sections.source = []
  ordering : Piece.arguments sections.ordering = []

/-- Sections with numbers for the values that they bind in their conditions and their window. -/
def numbered
    (schema : Schema) (labels : List String) (sections : Sections Piece) :
    Sections (Fragment Nat) :=
  let next := (Piece.arguments sections.conjuncts.flatten).length + 1
  { selectList := Piece.numbered schema labels 1 sections.selectList
    source := Piece.numbered schema labels 1 sections.source
    conjuncts := Piece.numberedEach schema labels 1 sections.conjuncts
    ordering := Piece.numbered schema labels next sections.ordering
    window := Piece.numbered schema labels next sections.window }

/-- The numbers of sections are those of their values among the arguments. -/
theorem map_argument?_numbered
    {sections : Sections Piece}
    (schema : Schema)
    (labels : List String)
    (bindsLast : sections.BindsLast) :
    (sections.numbered schema labels).map (Fragment.map (argument? sections.arguments)) =
      (sections.map (Piece.fragment schema labels)).map (Fragment.map some) := by
  have selectList :=
    Piece.map_argument?_numbered schema labels sections.selectList [] sections.arguments
  have source := Piece.map_argument?_numbered schema labels sections.source [] sections.arguments
  have conjuncts := Piece.map_argument?_numberedEach schema labels sections.conjuncts []
    (Piece.arguments sections.window)
  have ordering := Piece.map_argument?_numbered schema labels sections.ordering
    (Piece.arguments sections.conjuncts.flatten) (Piece.arguments sections.window)
  have window := Piece.map_argument?_numbered schema labels sections.window
    (Piece.arguments sections.conjuncts.flatten) []
  rw [bindsLast.selectList] at selectList
  rw [bindsLast.source] at source
  rw [bindsLast.ordering, List.append_nil] at ordering
  rw [List.append_nil] at window
  exact Sections.ext selectList source conjuncts ordering window

end Sections

namespace Draft

/-- The sections of a draft, given the pieces of every single condition. -/
def sections (draft : Draft) (conjuncts : List (List Piece)) : Sections Piece where
  selectList := Piece.separated ", " (draft.selection.items.map SelectItem.pieces)
  source := draft.selection.source
  conjuncts := conjuncts
  ordering := draft.orderingPieces
  window := draft.windowPieces

theorem bindsLast_sections (draft : Draft) (conjuncts : List (List Piece)) :
    (draft.sections conjuncts).BindsLast where
  selectList := by
    rw [sections]
    cases draft.selection <;> rfl
  source := by
    rw [sections]
    cases draft.selection <;> rfl
  ordering := draft.layout_orderingPieces.arguments

theorem arguments_wherePieces (conjuncts : List (List Piece)) :
    Piece.arguments (wherePieces conjuncts) = Piece.arguments conjuncts.flatten := by
  unfold wherePieces
  split
  next isEmpty =>
    rw [List.isEmpty_iff.mp isEmpty]
    rfl
  next => rw [Piece.arguments_words, Piece.arguments_separated]

/-- A draft binds what its sections bind. -/
theorem arguments_piecesAround (draft : Draft) (conjuncts : List (List Piece)) :
    Piece.arguments (draft.piecesAround conjuncts) = (draft.sections conjuncts).arguments := by
  rw [piecesAround, Piece.arguments_append, Piece.arguments_append, Piece.arguments_append,
    draft.layout_headPieces.arguments, arguments_wherePieces,
    draft.layout_orderingPieces.arguments]
  simp [Sections.arguments, sections]

section Written

variable (schema : Schema) (labels : List String) (draft : Draft) (conjuncts : List (List Piece))

/-- The select list and the source are written as numbered sections. -/
theorem write_headPieces_eq :
    Piece.write schema labels 1 draft.headPieces =
      "SELECT "
        ++ Fragment.joined
          (Piece.numbered schema labels 1 (draft.sections conjuncts).selectList)
        ++ " \nFROM "
        ++ Fragment.joined (Piece.numbered schema labels 1 (draft.sections conjuncts).source) := by
  have bindsNone := (draft.bindsLast_sections conjuncts).selectList
  simp only [sections] at bindsNone ⊢
  rw [Piece.joined_numbered, Piece.joined_numbered, headPieces, List.cons_append, Piece.write,
    Piece.write_append, Piece.write, bindsNone, List.length_nil, Nat.add_zero,
    String.append_assoc, String.append_assoc]

/-- The conditions are written as numbered sequences. -/
theorem write_wherePieces :
    Piece.write schema labels 1 (wherePieces conjuncts) =
      if (Piece.numberedEach schema labels 1 conjuncts).isEmpty then ""
      else " \nWHERE " ++ " AND ".intercalate
        ((Piece.numberedEach schema labels 1 conjuncts).map Fragment.joined) := by
  rw [Piece.isEmpty_numberedEach, wherePieces, Piece.intercalate_numberedEach]
  split <;> rfl

/-- A draft is written as its numbered sections. -/
theorem write_piecesAround :
    Piece.write schema labels 1 (draft.piecesAround conjuncts) =
      ((draft.sections conjuncts).numbered schema labels).text := by
  have headArguments : Piece.arguments draft.headPieces = [] := draft.layout_headPieces.arguments
  have orderingArguments : Piece.arguments draft.orderingPieces = [] :=
    draft.layout_orderingPieces.arguments
  rw [piecesAround, Piece.write_append, Piece.write_append, Piece.write_append]
  simp only [Piece.arguments_append, headArguments, orderingArguments, arguments_wherePieces,
    List.nil_append, List.append_nil, List.length_nil, Nat.add_zero,
    write_headPieces_eq schema labels draft conjuncts, write_wherePieces]
  rw [← Piece.joined_numbered, ← Piece.joined_numbered, Nat.add_comm 1]
  rfl

end Written

end Draft

/-! ## Searches -/

/-- The condition that a predicate states, with its value in it, among the given labels. -/
def Predicate.condition
    (schema : Schema) (labels : List String) (predicate : Predicate) : List (Fragment Value) :=
  match Clause.ofPredicate predicate >>= Clause.conjunctPieces with
  | .ok pieces => pieces.map (Piece.fragment schema labels)
  | .error _ => []

theorem Predicate.condition_eq
    {predicate : Predicate}
    {clause : Clause}
    {pieces : List Piece}
    (stated : Clause.ofPredicate predicate = .ok clause)
    (written : clause.conjunctPieces = .ok pieces)
    (schema : Schema)
    (labels : List String) :
    predicate.condition schema labels = pieces.map (Piece.fragment schema labels) := by
  have conjunct : Clause.ofPredicate predicate >>= Clause.conjunctPieces = .ok pieces := by
    rw [stated]
    exact written
  rw [condition, conjunct]

/-- The values that a page request binds, after the stems of their labels. -/
def PageRequest.boundValues (request : PageRequest) : List (String × Value) :=
  (request.limit.toList ++ request.offset.toList).map fun bound =>
    (Clause.freeStem, .ofNat bound)

namespace Search

/-- A search as the only step of a chain. -/
def chain (search : Search) : Chain :=
  [.search search]

/-- The pieces of a search, given those of every single condition. -/
def pieces (search : Search) (selection : Selection) (conjuncts : List (List Piece)) :
    Sections Piece :=
  (({ selection } : Draft).paginate search.request).sections conjuncts

/-- The sections of a search: its predicates decide the conditions and the labels only. -/
def sections (search : Search) (schema : Schema) (selection : Selection) :
    Sections (Fragment Value) :=
  { (search.pieces selection []).map (Piece.fragment schema search.chain.labels) with
    conjuncts := search.predicates.map (Predicate.condition schema search.chain.labels) }

variable {search : Search} {schema : Schema} {selection : Selection}

@[simp] theorem predicates_chain (search : Search) :
    search.chain.predicates = search.predicates := by
  simp [chain, Chain.predicates, Step.predicates]

/-- A search pages a select and adds the conditions of its predicates. -/
theorem draft_chain (search : Search) (selection : Selection) (conditions : List Clause) :
    search.chain.draft selection conditions =
      { ({ selection } : Draft).paginate search.request with conditions } := by
  have ordering : search.chain.ordering = (Step.sorting? (.search search)).toList := by
    rw [chain, Chain.ordering]
    cases sorting : Step.sorting? (.search search) <;> simp [sorting]
  have limit : search.chain.limit? = search.request.limit := by
    rw [chain, Chain.limit?]
    cases bounded : search.request.limit <;> simp [Step.request, bounded]
  have offset : search.chain.offset? = search.request.offset := by
    rw [chain, Chain.offset?]
    cases bounded : search.request.offset <;> simp [Step.request, bounded]
  simp [Chain.draft, Draft.paginate, ordering, limit, offset, Step.sorting?, Step.request]

/-- A search binds the values of its predicates in their order, and then those of its request. -/
theorem bound_chain (search : Search) :
    search.chain.bound =
      search.predicates.filterMap Predicate.bound? ++ search.request.boundValues := by
  have limit := congrArg Draft.limit (search.draft_chain .page [])
  have offset := congrArg Draft.offset (search.draft_chain .page [])
  simp only [Chain.draft, Draft.paginate, Option.orElse_eq_orElse] at limit offset
  rw [Chain.bound, Chain.parts, predicates_chain, limit, offset, List.filterMap_append,
    List.filterMap_append, List.filterMap_map, PageRequest.boundValues, List.map_append]
  cases search.request.limit <;> cases search.request.offset <;> rfl

/-- Conditions with their values are those of the predicates that state them. -/
theorem map_fragment_of_writes
    {predicates : List Predicate}
    {conditions : List Clause}
    {conjuncts : List (List Piece)}
    (labels : List String)
    (stated : Chain.States predicates conditions)
    (writes : Draft.Writes conditions conjuncts) :
    conjuncts.map (List.map (Piece.fragment schema labels)) =
      predicates.map (Predicate.condition schema labels) := by
  induction stated generalizing conjuncts with
  | nil =>
      cases writes
      rfl
  | cons isStated _ restHypothesis =>
      cases writes with
      | cons isWritten restWritten =>
          rw [List.map_cons, List.map_cons, restHypothesis restWritten,
            Predicate.condition_eq isStated isWritten]

/-- The predicates of a search that build can be written, and then its parts are laid out. -/
theorem exists_layout_of_builds
    (builds : search.chain.Builds)
    (selection : Selection) :
    ∃ conditions conjuncts,
      Chain.States search.chain.predicates conditions ∧ Draft.Writes conditions conjuncts ∧
      Layout search.chain.parts
        ((search.chain.draft selection conditions).piecesAround conjuncts) ∧
      Piece.labels ((search.chain.draft selection conditions).piecesAround conjuncts) =
        search.chain.labels := by
  obtain ⟨conditions, stated⟩ := Chain.exists_stated builds
  obtain ⟨conjuncts, writes⟩ := Chain.exists_writes builds stated
  have ofDraft :
      Chain.States search.chain.predicates (search.chain.draft selection conditions).conditions :=
    stated
  have layout : Layout search.chain.parts
      ((search.chain.draft selection conditions).piecesAround conjuncts) :=
    Draft.layout_piecesAround ofDraft writes
  refine ⟨conditions, conjuncts, stated, writes, layout, ?_⟩
  rw [Piece.labels, layout.stems]
  rfl

/-- A search that stays inside its source is written as its sections with their numbers. -/
theorem exists_compile_eq
    (schema : Schema)
    (builds : search.chain.Builds)
    (inside : search.chain.StaysInside selection) :
    ∃ conjuncts : List (List Piece),
      search.chain.compile schema selection = .ok {
        text := ((search.pieces selection conjuncts).numbered schema search.chain.labels).text
        arguments := (search.pieces selection conjuncts).arguments } ∧
      (search.pieces selection conjuncts).arguments = search.chain.bound.map Prod.snd ∧
      (search.pieces selection conjuncts).map (Piece.fragment schema search.chain.labels) =
        search.sections schema selection := by
  obtain ⟨conditions, conjuncts, stated, writes, layout, sameLabels⟩ :=
    exists_layout_of_builds builds selection
  have insideSource := (Chain.readsOutsideSource_iff builds stated).mpr inside
  have compiled : search.chain.compile schema selection = .ok _ :=
    Chain.compile_eq_ok_iff.mpr ⟨conditions, stated,
      Draft.compile_eq_ok_iff.mpr ⟨insideSource, conjuncts, writes, rfl⟩⟩
  have bound : Piece.arguments ((search.chain.draft selection conditions).piecesAround conjuncts) =
      search.chain.bound.map Prod.snd := layout.arguments
  rw [Piece.text, sameLabels, Draft.write_piecesAround] at compiled
  rw [Draft.arguments_piecesAround] at bound compiled
  rw [draft_chain] at bound compiled
  rw [predicates_chain] at stated
  exact ⟨conjuncts, compiled, bound,
    Sections.ext rfl rfl (map_fragment_of_writes search.chain.labels stated writes) rfl rfl⟩

/-- The statement of a search reads as the sections of the search. -/
theorem exists_statement_reads
    (schema : Schema)
    (builds : search.chain.Builds)
    (inside : search.chain.StaysInside selection) :
    ∃ statement, search.chain.compile schema selection = .ok statement ∧
      statement.arguments = search.chain.bound.map Prod.snd ∧
      statement.Reads (search.sections schema selection) := by
  obtain ⟨conjuncts, compiled, bound, same⟩ := exists_compile_eq schema builds inside
  have numbers := Sections.map_argument?_numbered schema search.chain.labels
    (Draft.bindsLast_sections (({ selection } : Draft).paginate search.request) conjuncts)
  exact ⟨_, compiled, bound, _, rfl, numbers.trans (congrArg _ same)⟩

/-- Whenever a search compiles, its statement reads as the sections of the search. -/
theorem reads_of_compile
    {statement : Statement}
    (isStatement : search.chain.compile schema selection = .ok statement) :
    statement.Reads (search.sections schema selection) := by
  obtain ⟨conditions, stated, compiles⟩ := Chain.compile_eq_ok_iff.mp isStatement
  obtain ⟨insideSource, conjuncts, writes, -⟩ := Draft.compile_eq_ok_iff.mp compiles
  have builds : search.chain.Builds := Chain.builds_of_writes stated writes
  obtain ⟨same, compiled, -, reads⟩ := exists_statement_reads schema builds
    ((Chain.readsOutsideSource_iff builds stated).mp insideSource)
  cases isStatement.symm.trans compiled
  exact reads

end Search

end InstanceDirectory
