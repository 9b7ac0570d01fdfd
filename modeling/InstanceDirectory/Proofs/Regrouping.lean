import InstanceDirectory.Proofs.Chaining
import InstanceDirectory.Proofs.Paging

/-!
# Regrouped chains

Chains are taken apart and put together freely: a whole search is a page request and some
predicates, predicates are applied at once or one by one, and paging stands before or after
them.  What a chain builds depends only on its predicates, its sort columns, its last limit
and its last offset, so every chain has a normal form that first narrows, then bounds and
then sorts.
-/

namespace InstanceDirectory
namespace Chain

/--
Two chains regroup each other when they apply the same predicates and the same sort columns,
each in the same order, and the limit and the offset that they set last are the same.
-/
structure Regroups (first second : Chain) : Prop where
  predicates : first.predicates = second.predicates
  ordering : first.ordering = second.ordering
  limit : first.limit? = second.limit?
  offset : first.offset? = second.offset?

/-- The steps that add sort columns, one for each. -/
def sortingSteps (ordering : List (Column × Bool)) : Chain :=
  ordering.map fun term => .paginate { sorting := some term.1, ascending := term.2 }

/-- The chain that applies all predicates at once, then both bounds, then the sort columns. -/
def normal (chain : Chain) : Chain :=
  .filter chain.predicates :: .paginate { offset := chain.offset?, limit := chain.limit? } ::
    sortingSteps chain.ordering

@[simp] theorem predicates_sortingSteps (ordering : List (Column × Bool)) :
    (sortingSteps ordering).predicates = [] := by
  induction ordering with
  | nil => rfl
  | cons term terms termsHypothesis => exact termsHypothesis

@[simp] theorem ordering_sortingSteps (terms : List (Column × Bool)) :
    (sortingSteps terms).ordering = terms := by
  induction terms with
  | nil => rfl
  | cons term terms termsHypothesis => exact congrArg (term :: ·) termsHypothesis

/-- Of the requests in a normal form, only the one for both bounds sets a bound. -/
theorem getLast?_bounds_normal
    (bound : PageRequest -> Option Nat)
    (unset : ∀ sorting ascending, bound { sorting, ascending } = none)
    (chain : Chain) :
    (chain.normal.filterMap fun step => bound step.request).getLast? =
      bound { offset := chain.offset?, limit := chain.limit? } := by
  let choose (step : Step) : Option Nat := bound step.request
  have narrowing : choose (.filter chain.predicates) = none := unset none false
  have sorting : (sortingSteps chain.ordering).filterMap choose = [] := by
    rw [List.filterMap_eq_nil_iff]
    intro step member
    obtain ⟨term, _, rfl⟩ := List.mem_map.mp member
    exact unset (some term.1) term.2
  change (chain.normal.filterMap choose).getLast? = choose (.paginate _)
  rw [normal, List.filterMap_cons_none narrowing]
  cases set : choose (.paginate { offset := chain.offset?, limit := chain.limit? }) with
  | none => rw [List.filterMap_cons_none set, sorting, List.getLast?_nil]
  | some number => rw [List.filterMap_cons_some set, sorting, List.getLast?_singleton]

/-- A chain and its normal form regroup each other. -/
theorem regroups_normal (chain : Chain) : chain.Regroups chain.normal where
  predicates := by
    change chain.predicates = chain.predicates ++ (sortingSteps chain.ordering).predicates
    rw [predicates_sortingSteps, List.append_nil]
  ordering := (ordering_sortingSteps chain.ordering).symm
  limit := (getLast?_bounds_normal PageRequest.limit (fun _ _ => rfl) chain).symm
  offset := (getLast?_bounds_normal PageRequest.offset (fun _ _ => rfl) chain).symm

namespace Regroups

theorem symm {first second : Chain} (same : first.Regroups second) : second.Regroups first where
  predicates := same.predicates.symm
  ordering := same.ordering.symm
  limit := same.limit.symm
  offset := same.offset.symm

theorem trans
    {first second third : Chain}
    (left : first.Regroups second)
    (right : second.Regroups third) :
    first.Regroups third where
  predicates := left.predicates.trans right.predicates
  ordering := left.ordering.trans right.ordering
  limit := left.limit.trans right.limit
  offset := left.offset.trans right.offset

/-- Regrouping a chain does not change what it makes of a draft. -/
theorem follow_eq
    {first second : Chain}
    (same : first.Regroups second)
    (draft : Draft) :
    draft.follow first = draft.follow second := by
  have paged : draft.paged first = draft.paged second := by
    simp only [Draft.paged, same.ordering, same.limit, same.offset]
  rw [Draft.follow_eq, Draft.follow_eq, same.predicates, paged]

/-- Regrouping a chain changes neither the statement nor the failure that it leads to. -/
theorem compile_eq
    {first second : Chain}
    (same : first.Regroups second)
    (schema : Schema)
    (selection : Selection) :
    first.compile schema selection = second.compile schema selection := by
  rw [compile, compile, same.follow_eq]

end Regroups

/-- Chains regroup each other exactly when they have the same normal form. -/
theorem normal_eq_iff {first second : Chain} :
    first.normal = second.normal ↔ first.Regroups second := by
  constructor
  · intro same
    have halfway : first.Regroups second.normal := same ▸ first.regroups_normal
    exact halfway.trans second.regroups_normal.symm
  · intro same
    simp only [normal, same.predicates, same.ordering, same.limit, same.offset]

end Chain

namespace Draft

/-- Paging a draft and then narrowing it is narrowing it and then paging it. -/
theorem filter_paginate
    (draft : Draft)
    (request : PageRequest)
    (predicates : List Predicate) :
    (draft.paginate request).filter predicates =
      (draft.filter predicates).map fun narrowed => narrowed.paginate request := by
  rw [filter_eq, filter_eq]
  cases predicates.mapM Clause.ofPredicate <;> rfl

end Draft

/--
Every chain compiles as its normal form does, and chains with the same predicates, the same
sort columns, the same last limit and the same last offset have the same normal form: they
lead to the same statement or to the same failure.  Searching is paging and narrowing in
either order, and a bound of zero leaves the bound that is set.
-/
theorem chains_have_normal_form :
    (∀ (chain : Chain) (schema : Schema) (selection : Selection),
      chain.compile schema selection = chain.normal.compile schema selection) ∧
    (∀ first second : Chain, first.Regroups second →
      first.normal = second.normal ∧
      (∀ draft : Draft, draft.follow first = draft.follow second) ∧
      ∀ (schema : Schema) (selection : Selection),
        first.compile schema selection = second.compile schema selection) ∧
    (∀ (draft : Draft) (whole : Search),
      draft.search whole = (draft.paginate whole.request).filter whole.predicates ∧
      draft.search whole =
        (draft.filter whole.predicates).map fun narrowed => narrowed.paginate whole.request) ∧
    ∀ (draft : Draft) (offset limit : Nat) (sorting : Option Column) (ascending : Bool),
      ∃ request,
        PageRequest.build (.ofNat offset) (.ofNat limit) sorting ascending = .ok request ∧
        (draft.paginate request).limit = (if limit = 0 then draft.limit else some limit) ∧
        (draft.paginate request).offset = (if offset = 0 then draft.offset else some offset) := by
  refine ⟨fun chain => chain.regroups_normal.compile_eq, ?regrouped, ?searched, ?bounded⟩
  case regrouped =>
    intro first second same
    exact ⟨Chain.normal_eq_iff.mpr same, same.follow_eq, same.compile_eq⟩
  case searched =>
    intro draft whole
    exact ⟨rfl, draft.filter_paginate whole.request whole.predicates⟩
  case bounded =>
    intro draft offset limit sorting ascending
    refine ⟨_, PageRequest.build_ofNat offset limit sorting ascending, ?_, ?_⟩
    · by_cases isZero : limit = 0 <;> simp [Draft.paginate, isZero]
    · by_cases isZero : offset = 0 <;> simp [Draft.paginate, isZero]

/-- A search by two predicates for the first two matches, sorted by identity. -/
def Chain.atOnce : Chain :=
  [.search {
    request := { limit := some 2, sorting := some .id }
    predicates := [.equals .id (.text "a"), .equals .sequence (.int 3)] }]

/-- The same search one predicate at a time, with a limit that is replaced later. -/
def Chain.piecemeal : Chain :=
  [.filter [.equals .id (.text "a")], .paginate { limit := some 5 },
    .filter [.equals .sequence (.int 3)], .paginate { limit := some 2, sorting := some .id }]

theorem chains_have_normal_form_piecemeal :
    Chain.atOnce.Regroups Chain.piecemeal ∧
    ∃ statement,
      Chain.atOnce.compile .standard .page = .ok statement ∧
      Chain.piecemeal.compile .standard .page = .ok statement := by
  have same : Chain.atOnce.Regroups Chain.piecemeal := ⟨rfl, rfl, rfl, rfl⟩
  have agree := (chains_have_normal_form.2.1 _ _ same).2.2 .standard .page
  refine ⟨same, _, rfl, ?_⟩
  rw [← agree]
  rfl

end InstanceDirectory
