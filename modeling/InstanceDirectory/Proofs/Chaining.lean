import InstanceDirectory.Statement
import Mathlib.Data.List.Forall2

/-!
# Chains of steps

A select is built by a chain of steps: each one narrows it, pages it, or applies a whole
search.  What a chain builds is determined by all its predicates in order, all its sort
columns in order, and the last limit and the last offset that it sets.
-/

namespace InstanceDirectory

/-- A step in the construction of a select. -/
inductive Step where
  | filter (predicates : List Predicate)
  | paginate (request : PageRequest)
  | search (whole : Search)

namespace Step

/-- The predicates that a step applies. -/
def predicates : Step -> List Predicate
  | filter predicates => predicates
  | paginate _ => []
  | search whole => whole.predicates

/-- The page request that a step applies; narrowing applies the empty one. -/
def request : Step -> PageRequest
  | filter _ => {}
  | paginate request => request
  | search whole => whole.request

/-- The sort column that a step adds, with its direction. -/
def sorting? (step : Step) : Option (Column × Bool) :=
  step.request.sorting.map fun column => (column, step.request.ascending)

end Step

/-- Steps in the order in which they are taken. -/
abbrev Chain : Type := List Step

namespace Chain

/-- All predicates in the order in which they are applied. -/
def predicates (chain : Chain) : List Predicate :=
  chain.flatMap Step.predicates

/-- All sort columns in the order in which they are added, with their directions. -/
def ordering (chain : Chain) : List (Column × Bool) :=
  chain.filterMap Step.sorting?

/-- The limit that is set last. -/
def limit? (chain : Chain) : Option Nat :=
  (chain.filterMap fun step => step.request.limit).getLast?

/-- The offset that is set last. -/
def offset? (chain : Chain) : Option Nat :=
  (chain.filterMap fun step => step.request.offset).getLast?

/-- The conditions that predicates state, one for each. -/
abbrev States (predicates : List Predicate) (conditions : List Clause) : Prop :=
  List.Forall₂ (fun predicate clause => Clause.ofPredicate predicate = .ok clause)
    predicates conditions

/-- What a chain makes of a select, given the conditions that its predicates state. -/
def draft (chain : Chain) (selection : Selection) (conditions : List Clause) : Draft where
  selection := selection
  conditions := conditions
  ordering := chain.ordering
  limit := chain.limit?
  offset := chain.offset?

end Chain

/-- A computation over a list succeeds exactly when it does for every element. -/
theorem mapM_eq_ok_iff
    {compute : α -> Except ε β}
    {elements : List α}
    {results : List β} :
    elements.mapM compute = .ok results ↔
      List.Forall₂ (fun element result => compute element = .ok result) elements results := by
  induction elements generalizing results with
  | nil => cases results <;> simp [pure, Except.pure]
  | cons element elements elementsHypothesis =>
      rw [List.mapM_cons]
      cases first : compute element with
      | error failure => cases results <;> simp [bind, Except.bind, first]
      | ok result =>
          cases rest : elements.mapM compute with
          | error failure =>
              cases results <;> simp [bind, Except.bind, ← elementsHypothesis, rest]
          | ok others =>
              cases results <;>
                simp [bind, Except.bind, pure, Except.pure, ← elementsHypothesis, first, rest]

/-- The last of optional values, if the first one and then all others are given. -/
theorem getLast?_filterMap_cons
    (choose : α -> Option β)
    (first : α)
    (rest : List α)
    (otherwise : Option β) :
    (((first :: rest).filterMap choose).getLast? <|> otherwise) =
      ((rest.filterMap choose).getLast? <|> (choose first <|> otherwise)) := by
  cases chosen : choose first with
  | none => simp [chosen]
  | some value =>
      rw [List.filterMap_cons_some chosen, List.getLast?_cons]
      cases (rest.filterMap choose).getLast? <;> rfl

namespace Draft

/-- Take a step. -/
def take (draft : Draft) : Step -> Except Failure Draft
  | .filter predicates => draft.filter predicates
  | .paginate request => .ok (draft.paginate request)
  | .search whole => draft.search whole

/-- Take steps in order. -/
def follow (draft : Draft) (chain : Chain) : Except Failure Draft :=
  chain.foldlM take draft

/-- A draft with further conditions. -/
def withConditions (draft : Draft) (conditions : List Clause) : Draft :=
  { draft with conditions := draft.conditions ++ conditions }

/-- A draft after the page requests of a chain. -/
def paged (draft : Draft) (chain : Chain) : Draft :=
  { draft with
    ordering := draft.ordering ++ chain.ordering
    limit := chain.limit? <|> draft.limit
    offset := chain.offset? <|> draft.offset }

@[simp] theorem paginate_empty (draft : Draft) : draft.paginate {} = draft := by
  simp [paginate]

/-- Every step is a page request followed by predicates. -/
theorem take_eq (draft : Draft) (step : Step) :
    draft.take step = (draft.paginate step.request).filter step.predicates := by
  cases step with
  | filter predicates => simp [take, Step.request, Step.predicates]
  | paginate request => rfl
  | search whole => rfl

/-- Narrowing adds the conditions of the predicates, if all of them state one. -/
theorem filter_eq (draft : Draft) (predicates : List Predicate) :
    draft.filter predicates =
      (predicates.mapM Clause.ofPredicate).map draft.withConditions := by
  induction predicates generalizing draft with
  | nil => simp [withConditions, pure, Except.pure, Except.map]
  | cons predicate predicates predicatesHypothesis =>
      have steps : draft.filter (predicate :: predicates) =
          draft.applyPredicate predicate >>= fun narrowed => narrowed.filter predicates :=
        List.foldlM_cons
      rw [steps, List.mapM_cons, applyPredicate]
      cases stated : Clause.ofPredicate predicate with
      | error failure => rfl
      | ok clause =>
          simp only [bind, Except.bind, pure, Except.pure]
          rw [predicatesHypothesis]
          cases predicates.mapM Clause.ofPredicate with
          | error failure => rfl
          | ok clauses => simp [Except.map, withConditions]

/-- Paging by a chain is paging by its first step and then by the others. -/
theorem paged_cons (draft : Draft) (step : Step) (chain : Chain) :
    draft.paged (step :: chain) = (draft.paginate step.request).paged chain := by
  have sorted : draft.ordering ++ Chain.ordering (step :: chain) =
      draft.ordering ++ step.sorting?.toList ++ Chain.ordering chain := by
    cases sorting : step.sorting? <;> simp [Chain.ordering, sorting]
  unfold paged paginate
  rw [sorted]
  simp only [Chain.limit?, Chain.offset?, getLast?_filterMap_cons]
  rfl

/-- Conditions and page requests do not interfere. -/
theorem paged_withConditions (draft : Draft) (conditions : List Clause) (chain : Chain) :
    (draft.withConditions conditions).paged chain =
      (draft.paged chain).withConditions conditions := rfl

/--
Following a chain adds the conditions of its predicates, if all of them state one, and pages
by its requests.
-/
theorem follow_eq (draft : Draft) (chain : Chain) :
    draft.follow chain =
      (chain.predicates.mapM Clause.ofPredicate).map (draft.paged chain).withConditions := by
  induction chain generalizing draft with
  | nil => simp [follow, Chain.predicates, paged, withConditions, Chain.ordering, Chain.limit?,
      Chain.offset?, pure, Except.pure, Except.map]
  | cons step chain chainHypothesis =>
      have steps : draft.follow (step :: chain) =
          draft.take step >>= fun taken => taken.follow chain := List.foldlM_cons
      have applied : Chain.predicates (step :: chain) = step.predicates ++ Chain.predicates chain :=
        List.flatMap_cons
      rw [steps, take_eq, filter_eq, applied, List.mapM_append, paged_cons]
      cases step.predicates.mapM Clause.ofPredicate with
      | error failure => rfl
      | ok first =>
          simp only [Except.map, bind, Except.bind, pure, Except.pure]
          rw [chainHypothesis, paged_withConditions]
          cases (Chain.predicates chain).mapM Clause.ofPredicate with
          | error failure => rfl
          | ok rest => simp [Except.map, withConditions]

/-- The pieces that conditions are written with, one sequence for each. -/
abbrev Writes (conditions : List Clause) (conjuncts : List (List Piece)) : Prop :=
  List.Forall₂ (fun clause pieces => clause.conjunctPieces = .ok pieces) conditions conjuncts

/-- The pieces of the conditions, given those of every single one. -/
def wherePieces (conjuncts : List (List Piece)) : List Piece :=
  if conjuncts.isEmpty then [] else .words " \nWHERE " :: Piece.separated " AND " conjuncts

/-- The pieces of a draft, given those of every single condition. -/
def piecesAround (draft : Draft) (conjuncts : List (List Piece)) : List Piece :=
  draft.headPieces ++ wherePieces conjuncts ++ draft.orderingPieces ++ draft.windowPieces

theorem pieces_eq (draft : Draft) :
    draft.pieces = (draft.conditions.mapM Clause.conjunctPieces).map draft.piecesAround := by
  unfold pieces conditionPieces
  cases draft.conditions.mapM Clause.conjunctPieces <;> rfl

/-- A draft compiles when it stays inside its source and all its conditions can be written. -/
theorem compile_eq_ok_iff
    {schema : Schema}
    {draft : Draft}
    {statement : Statement} :
    draft.compile schema = .ok statement ↔
      draft.readsOutsideSource = false ∧
      ∃ conjuncts, Writes draft.conditions conjuncts ∧
        statement = {
          text := Piece.text schema (draft.piecesAround conjuncts)
          arguments := Piece.arguments (draft.piecesAround conjuncts) } := by
  simp only [← mapM_eq_ok_iff]
  unfold compile
  rw [pieces_eq]
  cases draft.readsOutsideSource with
  | true => simp
  | false =>
      cases draft.conditions.mapM Clause.conjunctPieces with
      | error failure =>
          have fails : (Except.map draft.piecesAround (.error failure)).mapError report =
              .error (report failure) := rfl
          simp [fails, bind, Except.bind]
      | ok conjuncts =>
          have stands : (Except.map draft.piecesAround (.ok conjuncts)).mapError report =
              .ok (draft.piecesAround conjuncts) := rfl
          simp [stands, bind, Except.bind, pure, Except.pure, eq_comm (a := statement)]

end Draft

namespace Chain

/-- The statement that a chain leads to from a select. -/
def compile (chain : Chain) (schema : Schema) (selection : Selection) :
    Except Failure Statement :=
  ({ selection } : Draft).follow chain >>= Draft.compile schema

/-- Following a chain from a select makes the draft of the conditions that are stated. -/
theorem follow_eq (chain : Chain) (selection : Selection) :
    ({ selection } : Draft).follow chain =
      (chain.predicates.mapM Clause.ofPredicate).map (chain.draft selection) := by
  have built : (({ selection } : Draft).paged chain).withConditions = chain.draft selection := by
    funext conditions
    simp [Draft.paged, Draft.withConditions, draft]
  rw [Draft.follow_eq, built]

theorem compile_eq (chain : Chain) (schema : Schema) (selection : Selection) :
    chain.compile schema selection =
      chain.predicates.mapM Clause.ofPredicate >>= fun conditions =>
        (chain.draft selection conditions).compile schema := by
  rw [compile, follow_eq]
  cases chain.predicates.mapM Clause.ofPredicate <;> rfl

/-- A chain compiles when its predicates state conditions and the draft that it makes compiles. -/
theorem compile_eq_ok_iff
    {chain : Chain}
    {schema : Schema}
    {selection : Selection}
    {statement : Statement} :
    chain.compile schema selection = .ok statement ↔
      ∃ conditions, States chain.predicates conditions ∧
        (chain.draft selection conditions).compile schema = .ok statement := by
  rw [compile_eq]
  simp only [← mapM_eq_ok_iff]
  cases chain.predicates.mapM Clause.ofPredicate <;> simp [bind, Except.bind]

end Chain
end InstanceDirectory
