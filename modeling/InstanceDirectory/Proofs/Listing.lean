import Mathlib.Data.List.Induction
import InstanceDirectory.Proofs.Escaping
import InstanceDirectory.Proofs.Selecting

/-!
# Searching by a list of identities

A list of identities becomes one predicate.  It lists every identity once, in the order of the
first occurrences, and no other one; without any identity there is no predicate.  A search binds
the list as one argument, and the condition holds for exactly the identities of the list.
-/

namespace InstanceDirectory

/--
Decide whether a value is the same text as one of several.  As long as it is the same as none,
a comparison that is unknown leaves that open.
-/
def Value.sameTextAsAny? (stored : Value) (values : List Value) : Option Bool :=
  let comparisons := values.map (sameText? stored)
  if some true ∈ comparisons then some true
  else if none ∈ comparisons then none
  else some false

/-- Among texts, a text is sought by its characters, and nothing is left open. -/
theorem Value.sameTextAsAny?_texts (stored : String) (texts : List String) :
    sameTextAsAny? (.text stored) (texts.map .text) = some (decide (stored ∈ texts)) := by
  have comparisons : (texts.map Value.text).map (sameText? (.text stored)) =
      texts.map fun text => some (stored == text) := by
    rw [List.map_map]
    rfl
  have found : some true ∈ texts.map (fun text => some (stored == text)) ↔ stored ∈ texts := by
    simp
  have known : none ∉ texts.map fun text => some (stored == text) := by simp
  rw [sameTextAsAny?, comparisons, if_neg known]
  by_cases present : stored ∈ texts
  · simp only [found, present, if_true, decide_true]
  · simp only [found, present, if_false, decide_false]

/-- The condition that a column equals one of the values of a list. -/
structure Membership where
  /-- The column as it is written. -/
  column : String
  /-- The values of the list. -/
  values : List Value

/-- The membership in a bound list that a condition asks for. -/
def Fragment.membership? : List (Fragment Value) -> Option Membership
  | [.verbatim column, .verbatim " = ANY (", .bound (.list values) _, .verbatim ")"] =>
      some { column, values }
  | _ => none

namespace Predicate

/-! ## First occurrences -/

theorem firstOccurrences_append_singleton (ids : List String) (last : String) :
    firstOccurrences (ids ++ [last]) = addNew (firstOccurrences ids) last := by
  simp [firstOccurrences]

/-- The elements stand in the order in which they first occur in the list. -/
theorem pairwise_firstOccurrences (ids : List String) :
    (firstOccurrences ids).Pairwise fun first second => ids.idxOf first < ids.idxOf second := by
  induction ids using List.reverseRecOn with
  | nil => exact .nil
  | append_singleton ids last idsHypothesis =>
      -- A place in the shorter list is the same place in the longer one.
      have samePlace {id : String} (present : id ∈ ids) :
          (ids ++ [last]).idxOf id = ids.idxOf id := List.idxOf_append_of_mem present
      have earlier : (firstOccurrences ids).Pairwise fun first second =>
          (ids ++ [last]).idxOf first < (ids ++ [last]).idxOf second := by
        refine idsHypothesis.imp_of_mem fun firstPresent secondPresent before => ?_
        rw [samePlace ((mem_firstOccurrences ids _).mp firstPresent),
          samePlace ((mem_firstOccurrences ids _).mp secondPresent)]
        exact before
      rw [firstOccurrences_append_singleton, addNew]
      split
      next known => exact earlier
      next new =>
        refine List.pairwise_append.mpr ⟨earlier, List.pairwise_singleton _ _, ?_⟩
        intro id present other isLast
        rw [List.mem_singleton.mp isLast]
        have present := (mem_firstOccurrences ids id).mp present
        have absent : last ∉ ids := mt (mem_firstOccurrences ids last).mpr new
        rw [samePlace present, List.idxOf_append_of_notMem absent]
        exact Nat.lt_of_lt_of_le (List.idxOf_lt_length_of_mem present) (Nat.le_add_right _ _)

theorem nodup_firstOccurrences (ids : List String) : (firstOccurrences ids).Nodup :=
  (pairwise_firstOccurrences ids).imp fun before same =>
    absurd (same ▸ before) (Nat.lt_irrefl _)

/-- A list without repetitions is its own list of first occurrences. -/
theorem firstOccurrences_of_nodup {ids : List String} (nodup : ids.Nodup) :
    firstOccurrences ids = ids := by
  induction ids using List.reverseRecOn with
  | nil => rfl
  | append_singleton ids last idsHypothesis =>
      obtain ⟨idsNodup, -, apart⟩ := List.nodup_append.mp nodup
      have new : last ∉ ids := fun present => apart last present last (List.mem_singleton_self _) rfl
      rw [firstOccurrences_append_singleton, idsHypothesis idsNodup, addNew, if_neg new]

theorem firstOccurrences_firstOccurrences (ids : List String) :
    firstOccurrences (firstOccurrences ids) = firstOccurrences ids :=
  firstOccurrences_of_nodup (nodup_firstOccurrences ids)

theorem firstOccurrences_eq_nil_iff {ids : List String} : firstOccurrences ids = [] ↔ ids = [] := by
  simp only [List.eq_nil_iff_forall_not_mem, mem_firstOccurrences]

/-! ## The predicate of a list -/

/--
A predicate picks identities out by a list.  The values are the identities of the list, each
once and in the order of their first occurrences, and as a list they make the same predicate.
Every search with the predicate binds them as one argument in that order, in the place of the
predicate, and a search with nothing else compiles.  The condition is the membership in the
list, and that is true of the identities of the list and false of all others.
-/
structure PicksOut (ids kept : List String) (predicate : Predicate) : Prop where
  lists : ∃ nonempty, predicate = .anyOf .id (kept.map .text) nonempty
  nodup : kept.Nodup
  mem_iff : ∀ id, id ∈ kept ↔ id ∈ ids
  inOrder : kept.Pairwise fun first second => ids.idxOf first < ids.idxOf second
  again : instanceIds kept = .ok predicate
  compiles : ∀ schema selection, ∃ statement,
    ({ predicates := [predicate] } : Search).chain.compile schema selection = .ok statement
  binds : ∀ (earlier later : List Predicate) (request : PageRequest) (schema : Schema)
    (selection : Selection) (statement : Statement),
    let search : Search := { request, predicates := earlier ++ predicate :: later }
    search.chain.compile schema selection = .ok statement ->
    statement.arguments =
      (earlier.filterMap bound?).map Prod.snd ++ .list (kept.map .text) ::
        (later.filterMap bound? ++ request.boundValues).map Prod.snd ∧
    statement.Reads (search.sections schema selection) ∧
    predicate.condition schema search.chain.labels ∈ (search.sections schema selection).conjuncts
  condition : ∀ schema labels, Fragment.membership? (predicate.condition schema labels) = some {
    column := Piece.nameText labels (schema.columnText .id), values := kept.map .text }
  holds : ∀ stored : String,
    Value.sameTextAsAny? (.text stored) (kept.map .text) = some (decide (stored ∈ ids))

/--
A list of identities makes a predicate that picks out exactly these identities, or is empty and
makes none.
-/
theorem instanceIds_picksOut (ids : List String) :
    match instanceIds ids with
    | .error failure =>
        ids = [] ∧ failure.message = "Errors.Query.InvalidRequest" ∧
        failure.kind = .query .invalidArgument "QUERY-LsT0e"
          [("column", .text "id"), ("reason", .text "empty value list")]
    | .ok predicate => ids ≠ [] ∧ ∃ kept, predicate.PicksOut ids kept := by
  by_cases empty : ids = []
  case pos =>
    subst empty
    exact ⟨rfl, rfl, rfl⟩
  case neg =>
    have keptNonempty : firstOccurrences ids ≠ [] := mt firstOccurrences_eq_nil_iff.mp empty
    have nonempty : (firstOccurrences ids).map Value.text ≠ [] :=
      mt List.map_eq_nil_iff.mp keptNonempty
    have made : instanceIds ids = .ok (.anyOf .id _ nonempty) := dif_pos nonempty
    have isBound : (Predicate.anyOf .id _ nonempty).bound? =
        some ("id_list", .list ((firstOccurrences ids).map .text)) := rfl
    rw [made]
    refine ⟨empty, firstOccurrences ids, ?_⟩
    refine {
      lists := ⟨nonempty, rfl⟩
      nodup := nodup_firstOccurrences ids
      mem_iff := mem_firstOccurrences ids
      inOrder := pairwise_firstOccurrences ids
      again := ?again, compiles := ?compiles, binds := ?binds
      condition := fun _ _ => rfl, holds := ?holds }
    case again => rw [← made, instanceIds, instanceIds, firstOccurrences_firstOccurrences]
    case compiles =>
      intro schema selection
      have builds : Search.chain { predicates := [.anyOf .id _ nonempty] } |>.Builds := by
        intro predicate present
        rw [Search.predicates_chain] at present
        rw [List.mem_singleton.mp present]
        exact ⟨nofun, _, rfl⟩
      have inside : (Search.chain { predicates := [.anyOf .id _ nonempty] }).StaysInside
          selection := by
        show ∀ column ∈ [Column.id], column.table ∈ selection.tables
        cases selection <;> decide
      obtain ⟨statement, compiled, -⟩ := Search.exists_statement_reads schema builds inside
      exact ⟨statement, compiled⟩
    case binds =>
      intro earlier later request schema selection statement search compiled
      have listed : .anyOf .id _ nonempty ∈ search.predicates :=
        List.mem_append_right _ List.mem_cons_self
      obtain ⟨reads, shown, -⟩ := shown_of_bound? isBound search selection statement listed compiled
      refine ⟨?_, reads, shown⟩
      obtain ⟨pieces, layout, -, -, -, sameArguments⟩ := Chain.exists_layout compiled
      have bound : statement.arguments = search.chain.bound.map Prod.snd :=
        sameArguments.trans layout.arguments
      rw [bound, search.bound_chain, List.filterMap_append, List.filterMap_cons_some isBound]
      simp [search]
    case holds =>
      intro stored
      rw [Value.sameTextAsAny?_texts]
      simp only [mem_firstOccurrences]

/-- What is listed again adds nothing. -/
example : firstOccurrences ["b", "a", "b", "c", "a"] = ["b", "a", "c"] := by decide

end Predicate

end InstanceDirectory
