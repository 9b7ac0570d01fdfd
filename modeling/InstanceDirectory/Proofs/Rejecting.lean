import InstanceDirectory.Proofs.Sourcing

/-!
# Why statements cannot be had

A search has no statement when a predicate states no condition, when a condition cannot be
written, or when a column lies outside the source.  Only a column outside the source is a
rejection of its own making; every other failure is that of the predicate.
-/

namespace InstanceDirectory

/-- A computation over a list that fails has failed for one of the elements. -/
theorem exists_of_mapM_eq_error
    {compute : α -> Except ε β}
    {elements : List α}
    {failure : ε}
    (failed : elements.mapM compute = .error failure) :
    ∃ element ∈ elements, compute element = .error failure := by
  induction elements with
  | nil => cases failed
  | cons element elements elementsHypothesis =>
      rw [List.mapM_cons] at failed
      cases first : compute element with
      | error other =>
          rw [first] at failed
          cases failed
          exact ⟨element, List.mem_cons_self, first⟩
      | ok result =>
          cases rest : elements.mapM compute with
          | error other =>
              rw [first, rest] at failed
              cases failed
              obtain ⟨culprit, present, fails⟩ := elementsHypothesis rest
              exact ⟨culprit, List.mem_cons_of_mem _ present, fails⟩
          | ok results =>
              rw [first, rest] at failed
              cases failed

/-- Every result of a computation over a list is the one for some element. -/
theorem exists_of_mem_of_mapM_eq_ok
    {compute : α -> Except ε β}
    {elements : List α}
    {results : List β}
    {result : β}
    (succeeded : elements.mapM compute = .ok results)
    (present : result ∈ results) :
    ∃ element ∈ elements, compute element = .ok result := by
  have each := mapM_eq_ok_iff.mp succeeded
  clear succeeded
  induction each with
  | nil => cases present
  | @cons element _ elements _ first _ restHypothesis =>
      rcases List.mem_cons.mp present with rfl | later
      · exact ⟨element, List.mem_cons_self, first⟩
      · obtain ⟨other, isLater, computed⟩ := restHypothesis later
        exact ⟨other, List.mem_cons_of_mem _ isLater, computed⟩

/-- A computation over a list that succeeds does so for every element. -/
theorem exists_of_mapM_eq_ok
    {compute : α -> Except ε β}
    {elements : List α}
    {results : List β}
    (succeeded : elements.mapM compute = .ok results) :
    ∀ element ∈ elements, ∃ result, compute element = .ok result := by
  have each := mapM_eq_ok_iff.mp succeeded
  clear succeeded
  induction each with
  | nil => nofun
  | cons first _ restHypothesis => exact List.forall_mem_cons.mpr ⟨⟨_, first⟩, restHypothesis⟩

/-- The failure of matching a part of a column with what is no text. -/
def Clause.notText : Failure :=
  .type "String value expected when autoescape=True"

namespace Predicate

/-- A predicate that the repository has a constructor for. -/
def IsOwn : Predicate -> Prop
  | unstated => False
  | foreign _ => False
  | _ => True

/-- A predicate that matches a part of its column matches it with a text. -/
def HasText : Predicate -> Prop
  | text _ value .startsWith => ∃ content, value = .text content
  | text _ value .contains => ∃ content, value = .text content
  | _ => True

/-- A predicate without a condition states none, or matches with what is no text. -/
theorem ofPredicate_eq_error
    {predicate : Predicate}
    {failure : Failure}
    (failed : Clause.ofPredicate predicate = .error failure) :
    (¬ predicate.IsOwn ∧ failure = { kind := .unimplemented, message := "" }) ∨
      (¬ predicate.HasText ∧ failure = Clause.notText) := by
  have patterns {value : Value} {next : String -> Clause}
      (fails : (do return next (← Clause.pattern value)) = Except.error failure) :
      (¬ ∃ content, value = .text content) ∧ failure = Clause.notText := by
    cases value with
    | text content => cases fails
    | _ =>
        cases fails
        exact ⟨nofun, rfl⟩
  cases predicate with
  | equals column value => cases failed
  | anyOf column values nonempty => cases failed
  | text column value comparison =>
      cases comparison with
      | equals => cases failed
      | equalsIgnoreCase => cases failed
      | startsWith => exact .inr (patterns failed)
      | contains => exact .inr (patterns failed)
  | unstated =>
      cases failed
      exact .inl ⟨id, rfl⟩
  | foreign other => cases failed

/-- A predicate that states a condition has the text that it needs. -/
theorem hasText_of_ofPredicate
    {predicate : Predicate}
    {clause : Clause}
    (stated : Clause.ofPredicate predicate = .ok clause) :
    predicate.HasText := by
  have patterns {value : Value} {next : String -> Clause}
      (states : (do return next (← Clause.pattern value)) = Except.ok (ε := Failure) clause) :
      ∃ content, value = .text content := by
    cases value with
    | text content => exact ⟨content, rfl⟩
    | _ => cases states
  cases predicate with
  | text column value comparison =>
      cases comparison with
      | startsWith => exact patterns stated
      | contains => exact patterns stated
      | _ => trivial
  | _ => trivial

/-- A condition of the caller's own is stated by a predicate of the caller's own. -/
theorem eq_foreign_of_ofPredicate
    {predicate : Predicate}
    {raised : Failure}
    (stated : Clause.ofPredicate predicate = .ok (.foreign raised)) :
    predicate = .foreign raised := by
  by_cases isForeign : ∃ failure, predicate = .foreign failure
  · obtain ⟨failure, rfl⟩ := isForeign
    cases stated
    rfl
  · have builds : predicate.Builds :=
      ⟨fun failure same => isForeign ⟨failure, same⟩, _, stated⟩
    obtain ⟨column, -, about⟩ := builds.about stated
    cases about

end Predicate

/-- Only a condition of the caller's own cannot be written. -/
theorem Clause.eq_foreign_of_conjunctPieces
    {clause : Clause}
    {failure : Failure}
    (failed : clause.conjunctPieces = .error failure) :
    clause = .foreign failure := by
  cases about : clause.column? with
  | some column =>
      obtain ⟨pieces, written, -⟩ := exists_conjunctPieces about
      cases written.symm.trans failed
  | none =>
      cases clause with
      | foreign raised =>
          cases failed
          rfl
      | _ => cases about

/-- A draft does not compile for a column outside, or for a condition of the caller's own. -/
theorem Draft.compile_eq_error
    {draft : Draft}
    {schema : Schema}
    {failure : Failure}
    (failed : draft.compile schema = .error failure) :
    failure = rejected none ∨
      ∃ raised, Clause.foreign raised ∈ draft.conditions ∧ failure = report raised := by
  unfold compile at failed
  rw [pieces_eq] at failed
  cases outside : draft.readsOutsideSource with
  | true =>
      rw [outside] at failed
      cases failed
      exact .inl rfl
  | false =>
      cases written : draft.conditions.mapM Clause.conjunctPieces with
      | ok conjuncts =>
          rw [outside, written] at failed
          cases failed
      | error raised =>
          rw [outside, written] at failed
          cases failed
          obtain ⟨clause, present, fails⟩ := exists_of_mapM_eq_error written
          exact .inr ⟨raised, Clause.eq_foreign_of_conjunctPieces fails ▸ present, rfl⟩

namespace Repository

variable {search : Search} {draft : Draft} {failure raised : Failure}

/-- A search states the conditions of its predicates, if all of them state one. -/
theorem searchDraft_eq (search : Search) :
    searchDraft search = (search.predicates.mapM Clause.ofPredicate).map
      (({ selection := .page } : Draft).paginate search.request).withConditions :=
  Draft.filter_eq _ _

theorem exists_of_searchDraft_eq_error (failed : searchDraft search = .error failure) :
    ∃ predicate ∈ search.predicates, Clause.ofPredicate predicate = .error failure := by
  rw [searchDraft_eq] at failed
  cases stated : search.predicates.mapM Clause.ofPredicate with
  | ok conditions =>
      rw [stated] at failed
      cases failed
  | error other =>
      rw [stated] at failed
      cases failed
      exact exists_of_mapM_eq_error stated

theorem exists_of_searchDraft_eq_ok (drafted : searchDraft search = .ok draft) :
    ∀ predicate ∈ search.predicates, ∃ clause, Clause.ofPredicate predicate = .ok clause := by
  rw [searchDraft_eq] at drafted
  cases stated : search.predicates.mapM Clause.ofPredicate with
  | error other =>
      rw [stated] at drafted
      cases drafted
  | ok conditions => exact exists_of_mapM_eq_ok stated

/-- A condition of the caller's own comes from a predicate of the caller's own. -/
theorem foreign_mem_of_searchDraft
    (drafted : searchDraft search = .ok draft)
    (present : Clause.foreign raised ∈ draft.conditions) :
    Predicate.foreign raised ∈ search.predicates := by
  rw [searchDraft_eq] at drafted
  cases stated : search.predicates.mapM Clause.ofPredicate with
  | error other =>
      rw [stated] at drafted
      cases drafted
  | ok conditions =>
      rw [stated] at drafted
      cases drafted
      obtain ⟨predicate, applied, states⟩ := exists_of_mem_of_mapM_eq_ok stated present
      exact Predicate.eq_foreign_of_ofPredicate states ▸ applied

end Repository
end InstanceDirectory
