import InstanceDirectory.Proofs.Confinement
import InstanceDirectory.Proofs.Disclosure
import InstanceDirectory.Proofs.Paging

/-!
# How searches end

A caller asks for a page with numbers, a sort column and predicates of the repository's own.
The search that is made of them has a statement unless a column lies outside the source.  With
a statement it ends in a page or an internal failure, and without one it is rejected and asks
the driver for nothing.  Two slips escape this: an infinite number, and a match for a part of a
column with what is no text.  Their failures leave the search as they are.
-/

namespace InstanceDirectory

/-- Infinity, of either sign. -/
def Value.IsInfinite (value : Value) : Prop :=
  ∃ number, value = .float number ∧ number.isInfinite

namespace PageRequest

/-- The bound that a number sets which is not negative, unless it is infinite. -/
theorem bound_cases
    {value : Value}
    (notNegative : isNegative value = .ok false) :
    (¬ value.IsInfinite ∧ ∃ number, bound value = .ok number) ∨
      (value.IsInfinite ∧ bound value = .error .infinite) := by
  cases value with
  | bool truth => exact .inl ⟨nofun, _, rfl⟩
  | int number => exact .inl ⟨nofun, _, rfl⟩
  | float number =>
      have sign : (number.negative && !number.isZero && !number.isNaN) = false :=
        Except.ok.inj notNegative
      cases infinite : number.isInfinite with
      | false =>
          refine .inl ⟨?_, ?_⟩
          · rintro ⟨other, same, isInfinite⟩
            cases same
            exact absurd isInfinite (by simp [infinite])
          · simp only [bound, infinite, Bool.false_eq_true, if_false]
            split
            · exact ⟨none, rfl⟩
            · exact ⟨_, rfl⟩
      | true =>
          refine .inr ⟨⟨number, rfl, infinite⟩, ?_⟩
          obtain ⟨notFinite, noFraction⟩ : number.isFinite = false ∧ number.fraction = 0 := by
            simpa [Binary64.isInfinite] using infinite
          have notNaN : number.isNaN = false := by simp [Binary64.isNaN, noFraction]
          have notZero : number.isZero = false := by simp [Binary64.isZero, notFinite]
          have positive : number.negative = false := by simpa [notNaN, notZero] using sign
          simp [bound, notNaN, notZero, positive, infinite]
  | _ => cases notNegative

end PageRequest

/-- What a caller asks a search for. -/
structure Inquiry where
  /-- The number of matches to skip. -/
  offset : Value := .int 0
  /-- The number of matches to return at most. -/
  limit : Value := .int 0
  /-- The column that orders the matches. -/
  sorting : Option Column := none
  /-- Smallest first. -/
  ascending : Bool := false
  /-- The conditions, all of which a match satisfies. -/
  predicates : List Predicate := []

namespace Inquiry

/-- The search that is made of an inquiry. -/
def search? (inquiry : Inquiry) : Except Failure Search := do
  return {
    request := ← PageRequest.build inquiry.offset inquiry.limit inquiry.sorting inquiry.ascending
    predicates := inquiry.predicates }

/-- The statement of an inquiry. -/
def statement? (inquiry : Inquiry) (schema : Schema) : Except Failure Statement := do
  Chain.compile [.search (← inquiry.search?)] schema .page

/-- An inquiry that a caller can make: its parts are accepted when they are constructed. -/
structure IsAccepted (inquiry : Inquiry) : Prop where
  offset : PageRequest.isNegative inquiry.offset = .ok false
  limit : PageRequest.isNegative inquiry.limit = .ok false
  own : ∀ predicate ∈ inquiry.predicates, predicate.IsOwn

/-- An inquiry whose numbers are finite and whose predicates have the texts that they need. -/
structure IsBuildable (inquiry : Inquiry) : Prop where
  offset : ¬ inquiry.offset.IsInfinite
  limit : ¬ inquiry.limit.IsInfinite
  hasText : ∀ predicate ∈ inquiry.predicates, predicate.HasText

/--
A declared ending of an inquiry: a page or an internal failure if there is a statement, and a
rejection that has asked the driver for nothing if there is none.
-/
inductive Declares
    (inquiry : Inquiry) (schema : Schema) (conduct : Conduct Page) (site : Site) :
    Except Failure Page -> Prop where
  | page {statement : Statement} {page : Page} :
      inquiry.statement? schema = .ok statement ->
      Declares inquiry schema conduct site (.ok page)
  | internal {statement : Statement} {failure : Failure} {errorId : String} :
      inquiry.statement? schema = .ok statement ->
      failure.query? = some (.internal, errorId, Repository.searchDetails) ->
      Declares inquiry schema conduct site (.error failure)
  | rejected {failure : Failure} :
      (∀ statement, inquiry.statement? schema ≠ .ok statement) -> conduct.IsIdle site ->
      failure.query? = some (.invalidArgument, "QUERY-M9fow", Repository.searchDetails) ->
      Declares inquiry schema conduct site (.error failure)

/-- The failures of an inquiry that no search handles. -/
inductive Escapes (inquiry : Inquiry) : Except Failure Page -> Prop where
  | infinite :
      inquiry.offset.IsInfinite ∨ inquiry.limit.IsInfinite -> Escapes inquiry (.error .infinite)
  | notText :
      ¬ (∀ predicate ∈ inquiry.predicates, predicate.HasText) ->
      Escapes inquiry (.error Clause.notText)

/-- What escapes is not declared. -/
theorem Escapes.not_declares
    {inquiry : Inquiry}
    {schema : Schema}
    {conduct : Conduct Page}
    {site : Site}
    {outcome : Except Failure Page}
    (escapes : inquiry.Escapes outcome) :
    ¬ inquiry.Declares schema conduct site outcome := by
  intro declares
  cases escapes with
  | infinite _ =>
      cases declares with
      | internal _ isQuery => cases isQuery
      | rejected _ _ isQuery => cases isQuery
  | notText _ =>
      cases declares with
      | internal _ isQuery => cases isQuery
      | rejected _ _ isQuery => cases isQuery

end Inquiry

/-- Search for what a caller asks for. -/
def Repository.inquire
    (repository : Repository) (reporter : Reporter) (inquiry : Inquiry) : Read Page Page :=
  match inquiry.search? with
  | .ok search => repository.search reporter search
  | .error failure => .settled { outcome := .error failure }

/-- A driver fails with failures of its own, and its rows are lists or absent. -/
structure Answerer.IsDriver (answerer : Answerer) : Prop where
  fails : ∀ request failure, answerer request = .error failure -> failure.isDriver
  first : ∀ connection statement row,
    answerer (.fetchRow connection statement) = .ok row -> row.IsRow
  next : ∀ row, answerer .nextRow = .ok (some row) -> row.IsRow

namespace Row

/-- What is wrong with a row is a matter of decoding. -/
theorem isDecode_of_decode
    {row : Value}
    {host : String}
    {failure : Failure}
    (isRow : row.IsRow)
    (failed : decode row host = .error failure) :
    failure.isDecode := by
  rcases isRow with rfl | ⟨items, rfl⟩
  · cases failed
    rfl
  · exact decode_list_failsByDecoding items host failure failed

theorem isDecode_of_fault?
    {row : Value}
    {failure : Failure}
    (isRow : row.IsRow)
    (faulty : fault? row = some failure) :
    failure.isDecode := by
  rcases isRow with rfl | ⟨items, rfl⟩
  · cases faulty
    rfl
  · exact fault?_list faulty

end Row

/-- Nothing needs to pass of what goes wrong in an exchange with a driver. -/
theorem Answerer.IsDriver.isPermitted
    {answerer : Answerer}
    {passes : Failure -> Prop}
    (isDriver : answerer.IsDriver)
    (request : Request) :
    (Exchange.mk request (answerer request)).IsPermitted passes := by
  unfold Exchange.IsPermitted
  cases answered : answerer request with
  | error failure => exact .inl (isDriver.fails request failure answered)
  | ok reply =>
      cases request with
      | fetchRow connection statement =>
          intro host failure failed
          exact .inl (Row.isDecode_of_decode (isDriver.first _ _ _ answered) failed)
      | nextRow =>
          rintro row failure rfl faulty
          exact .inl (Row.isDecode_of_fault? (isDriver.next row answered) faulty)
      | _ => trivial

namespace Repository

variable {repository : Repository} {reporter : Reporter} {context : Context} {course : Course}
  {site : Site} {statement : Statement}

/-- A search that was executed over a driver ends in a page or an internal failure. -/
theorem outcome_cases_of_drivers
    {prefetch : Int}
    {outcome : Except Failure Page}
    (pooled : repository.executor = .pooled prefetch)
    (unobtrusive : reporter.IsUnobtrusive)
    (drivers : ∀ answerer, .answered answerer ∈ course.moments -> answerer.IsDriver)
    (ended : ((Read.awaiting (repository.searchOperation statement)
      (concludeSearch reporter)).conduct context course site).outcome? = some outcome) :
    (∃ page, outcome = .ok page) ∨
    ∃ failure errorId, outcome = .error failure ∧
      failure.query? = some (.internal, errorId, searchDetails) := by
  have repeats : reporter.MayRepeat fun _ => False :=
    fun obtrusive => absurd unobtrusive obtrusive
  -- Nothing may pass, so both ways to the end lead to an answer or a report.
  suffices shown : Related Eq (Failure.Shown (fun _ => False) [.internal] searchDetails)
      outcome outcome by
    rcases shown.answer_or_report with
      isPage | ⟨failure, fault, errorId, failed, isInternal, isQuery⟩
    · exact .inl isPage
    · obtain rfl := List.mem_singleton.mp isInternal
      exact .inr ⟨failure, errorId, failed, isQuery⟩
  obtain ⟨account, isAccount, rfl⟩ := Option.map_eq_some_iff.mp ended
  rcases Read.account_cases isAccount with
    ⟨reason, -, isReason, rfl⟩ | ⟨-, _, _, -, -, -, answered⟩
  · exact concludeSearch_execution_shown List.mem_cons_self isReason.isExecution
      isReason.isExecution repeats
  · have permitted : ∀ exchange ∈ ((Read.awaiting (repository.searchOperation statement)
        (concludeSearch reporter)).conduct context course site).exchanges,
        exchange.IsPermitted fun _ => False := by
      rintro ⟨request, answer⟩ happened
      obtain ⟨answerer, given, same⟩ := answered _ happened
      obtain rfl : answer = answerer request := same
      exact (drivers answerer given).isPermitted request
    have discloses := searchOperation_discloses pooled statement
      (List.mem_singleton_self QueryFault.internal) repeats
    have outcomes := (discloses.agrees (Course.Alike.refl course) permitted).outcomes
    rw [ended] at outcomes
    cases outcomes with
    | some shown => exact shown

end Repository

namespace Inquiry

variable {inquiry : Inquiry}

/-- An inquiry that is accepted has a search, unless one of its numbers is infinite. -/
theorem search?_cases (accepted : inquiry.IsAccepted) :
    (¬ inquiry.offset.IsInfinite ∧ ¬ inquiry.limit.IsInfinite ∧
      ∃ request, inquiry.search? = .ok { request, predicates := inquiry.predicates }) ∨
    ((inquiry.offset.IsInfinite ∨ inquiry.limit.IsInfinite) ∧
      inquiry.search? = .error .infinite) := by
  unfold search? PageRequest.build
  rw [accepted.offset, accepted.limit]
  rcases PageRequest.bound_cases accepted.offset with
    ⟨finite, skip, skips⟩ | ⟨infinite, fails⟩
  · rcases PageRequest.bound_cases accepted.limit with
      ⟨finiteToo, take, takes⟩ | ⟨infinite, fails⟩
    · exact .inl ⟨finite, finiteToo, _, by rw [skips, takes]; rfl⟩
    · exact .inr ⟨.inr infinite, by rw [skips, fails]; rfl⟩
  · exact .inr ⟨.inl infinite, by rw [fails]; rfl⟩

/-- The statement of an inquiry is that of the draft of its search. -/
theorem statement?_eq
    {search : Search}
    (asked : inquiry.search? = .ok search)
    (schema : Schema) :
    inquiry.statement? schema = Repository.searchDraft search >>= Draft.compile schema := by
  unfold statement?
  rw [asked]
  exact Chain.compile_search search schema

end Inquiry

namespace Repository

variable {repository : Repository} {prefetch : Int} {reporter : Reporter} {inquiry : Inquiry}
  {context : Context} {course : Course} {site : Site} {outcome : Except Failure Page}

/-- A search whose statement compiles is declared, however its driver and its context behave. -/
theorem declares_of_compiled
    {statement : Statement}
    (pooled : repository.executor = .pooled prefetch)
    (unobtrusive : reporter.IsUnobtrusive)
    (drivers : ∀ answerer, .answered answerer ∈ course.moments -> answerer.IsDriver)
    (compiled : inquiry.statement? repository.schema = .ok statement)
    (conduct : Conduct Page)
    (ended : ((Read.awaiting (repository.searchOperation statement)
      (concludeSearch reporter)).conduct context course site).outcome? = some outcome) :
    inquiry.Declares repository.schema conduct site outcome := by
  rcases outcome_cases_of_drivers pooled unobtrusive drivers ended with
    ⟨page, rfl⟩ | ⟨failure, errorId, rfl, isInternal⟩
  · exact .page compiled
  · exact .internal compiled isInternal

/-- A search of own predicates that does not compile is rejected with its name. -/
theorem outcome_rejected_of_own
    {search : Search}
    {draft : Draft}
    {schema : Schema}
    {failure : Failure}
    (unobtrusive : reporter.IsUnobtrusive)
    (own : ∀ predicate ∈ search.predicates, predicate.IsOwn)
    (drafted : searchDraft search = .ok draft)
    (failed : draft.compile schema = .error failure) :
    ∃ rejection, (rejected searchName reporter failure : Account Page).outcome =
        .error rejection ∧
      rejection.query? = some (.invalidArgument, "QUERY-M9fow", searchDetails) := by
  rcases Draft.compile_eq_error failed with rfl | ⟨raised, present, -⟩
  · exact ⟨_, Account.outcome_record unobtrusive _ _, rfl⟩
  · exact absurd (foreign_mem_of_searchDraft drafted present) fun applied => own _ applied

/-- A search whose own predicates state their conditions is declared. -/
theorem declares_of_drafted
    {search : Search}
    {draft : Draft}
    (pooled : repository.executor = .pooled prefetch)
    (unobtrusive : reporter.IsUnobtrusive)
    (drivers : ∀ answerer, .answered answerer ∈ course.moments -> answerer.IsDriver)
    (own : ∀ predicate ∈ search.predicates, predicate.IsOwn)
    (asked : inquiry.search? = .ok search)
    (drafted : searchDraft search = .ok draft)
    (ended : ((repository.search reporter search).conduct context course site).outcome? =
      some outcome) :
    inquiry.Declares repository.schema
      ((repository.search reporter search).conduct context course site) site outcome := by
  have statement := inquiry.statement?_eq asked repository.schema
  rw [drafted] at statement
  simp only [Repository.search, drafted] at ended ⊢
  cases compiled : draft.compile repository.schema with
  | ok written =>
      simp only [compileThen, compiled] at ended
      exact declares_of_compiled pooled unobtrusive drivers (statement.trans compiled) _ ended
  | error failure =>
      simp only [compileThen, compiled] at ended ⊢
      obtain ⟨rejection, concluded, isQuery⟩ :=
        outcome_rejected_of_own unobtrusive own drafted compiled
      obtain rfl : .error rejection = outcome := concluded.symm.trans (Option.some.inj ended)
      refine .rejected ?_ ⟨rfl, rfl⟩ isQuery
      intro written isWritten
      cases isWritten.symm.trans (statement.trans compiled)

/-- An accepted inquiry that can be built ends as declared, and any other one escapes at once. -/
theorem inquire_cases
    (pooled : repository.executor = .pooled prefetch)
    (unobtrusive : reporter.IsUnobtrusive)
    (accepted : inquiry.IsAccepted)
    (drivers : ∀ answerer, .answered answerer ∈ course.moments -> answerer.IsDriver)
    (ended : ((repository.inquire reporter inquiry).conduct context course site).outcome? =
      some outcome) :
    let conduct := (repository.inquire reporter inquiry).conduct context course site
    (inquiry.IsBuildable ∧ inquiry.Declares repository.schema conduct site outcome) ∨
    (¬ inquiry.IsBuildable ∧ conduct.IsIdle site ∧ inquiry.Escapes outcome) := by
  unfold inquire at ended ⊢
  rcases inquiry.search?_cases accepted with
    ⟨finite, finiteToo, request, asked⟩ | ⟨infinite, failed⟩
  · rw [asked] at ended ⊢
    cases drafted : searchDraft { request, predicates := inquiry.predicates } with
    | ok draft =>
        refine .inl ⟨⟨finite, finiteToo, ?_⟩, ?_⟩
        · intro predicate applied
          obtain ⟨clause, stated⟩ := exists_of_searchDraft_eq_ok drafted predicate applied
          exact Predicate.hasText_of_ofPredicate stated
        · exact declares_of_drafted pooled unobtrusive drivers accepted.own asked drafted ended
    | error failure =>
        simp only [Repository.search, drafted] at ended ⊢
        cases ended
        obtain ⟨predicate, applied, fails⟩ := exists_of_searchDraft_eq_error drafted
        rcases Predicate.ofPredicate_eq_error fails with ⟨notOwn, -⟩ | ⟨hasNone, rfl⟩
        · exact absurd (accepted.own predicate applied) notOwn
        · have lacksText : ¬ ∀ predicate ∈ inquiry.predicates, predicate.HasText :=
            fun hasText => hasNone (hasText predicate applied)
          exact .inr ⟨fun buildable => lacksText buildable.hasText, ⟨rfl, rfl⟩, .notText lacksText⟩
  · rw [failed] at ended ⊢
    cases ended
    refine .inr ⟨?_, ⟨rfl, rfl⟩, .infinite infinite⟩
    rintro ⟨finite, finiteToo, -⟩
    exact infinite.elim finite finiteToo

/-- An inquiry ends once six requests were answered besides those for rows that were read. -/
theorem exists_outcome_inquire
    (enough : 6 + Exchange.rowCount
        ((repository.inquire reporter inquiry).conduct context course site).exchanges ≤
      Moment.answers course.moments) :
    ∃ outcome,
      ((repository.inquire reporter inquiry).conduct context course site).outcome? =
        some outcome := by
  unfold inquire at enough ⊢
  cases asked : inquiry.search? with
  | error failure => exact ⟨_, rfl⟩
  | ok search =>
      rw [asked] at enough
      simp only [Repository.search] at enough ⊢
      rcases repository.compileThen_cases searchName reporter (searchDraft search)
          (fun statement => .awaiting (repository.searchOperation statement)
            (concludeSearch reporter)) with ⟨account, settled⟩ | ⟨statement, -, awaits⟩
      · rw [settled]
        exact ⟨account.outcome, rfl⟩
      · rw [awaits] at enough ⊢
        obtain ⟨account, ended⟩ := Read.exists_account_of_rowCount
          (searchOperation_endsWithin statement) (Nat.le_refl _) enough
        exact ⟨account.outcome, by rw [Conduct.outcome?, ended]; rfl⟩

/--
A search over the pool ends, and when its driver fails with failures of its own, it ends as
declared exactly when its numbers are finite and its predicates have the texts that they need:
in a page or an internal failure if there is a statement, and in a rejection if there is none.
Otherwise it has asked the driver for nothing and ends in a failure that no search handles.
-/
theorem inquire_declares_iff
    (pooled : repository.executor = .pooled prefetch)
    (unobtrusive : reporter.IsUnobtrusive)
    (accepted : inquiry.IsAccepted)
    (drivers : ∀ answerer, .answered answerer ∈ course.moments -> answerer.IsDriver) :
    let conduct := (repository.inquire reporter inquiry).conduct context course site
    (6 + Exchange.rowCount conduct.exchanges ≤ Moment.answers course.moments ->
      ∃ outcome, conduct.outcome? = some outcome) ∧
    ∀ outcome, conduct.outcome? = some outcome ->
      (inquiry.Declares repository.schema conduct site outcome ↔ inquiry.IsBuildable) ∧
      (¬ inquiry.IsBuildable -> conduct.IsIdle site ∧ inquiry.Escapes outcome) := by
  intro conduct
  refine ⟨exists_outcome_inquire, ?_⟩
  intro outcome ended
  rcases inquire_cases pooled unobtrusive accepted drivers ended with
    ⟨buildable, declares⟩ | ⟨unbuildable, isIdle, escapes⟩
  · exact ⟨iff_of_true declares buildable, fun unbuildable => absurd buildable unbuildable⟩
  · exact ⟨iff_of_false escapes.not_declares unbuildable, fun _ => ⟨isIdle, escapes⟩⟩

theorem granting_isDriver {row : Value} (isRow : row.IsRow) : (Answerer.granting row).IsDriver where
  fails := by
    intro request failure failed
    cases request <;> cases failed
  first := by
    intro connection statement other given
    cases given
    exact isRow
  next := nofun

/-- Searching over a pool for the instances whose identity starts with a value. -/
def startingWith (value : Value) : Inquiry where
  predicates := [.text .id value .startsWith]

/-- What becomes of such a search while the driver grants everything and has no rows. -/
def conductStartingWith (value : Value) : Conduct Page :=
  (({ executor := .pooled 100 } : Repository).inquire {} (startingWith value)).conduct
    { signal := 0 } (.answeredBy (.granting .null) 6) { isOpen := true }

theorem startingWith_isAccepted (value : Value) : (startingWith value).IsAccepted where
  offset := rfl
  limit := rfl
  own := by
    intro predicate applied
    rw [List.mem_singleton.mp applied]
    trivial

/-- A search for a prefix that is a text is declared. -/
theorem inquire_declares_of_text :
    ∃ outcome, (conductStartingWith (.text "acme")).outcome? = some outcome ∧
      (startingWith (.text "acme")).Declares .standard (conductStartingWith (.text "acme"))
        { isOpen := true } outcome := by
  have drivers : ∀ answerer, .answered answerer ∈
      (Course.answeredBy (.granting .null) 6).moments -> answerer.IsDriver := by
    intro answerer given
    cases List.eq_of_mem_replicate given
    exact granting_isDriver (.inl rfl)
  have buildable : (startingWith (.text "acme")).IsBuildable := by
    refine ⟨nofun, nofun, ?_⟩
    intro predicate applied
    rw [List.mem_singleton.mp applied]
    exact ⟨"acme", rfl⟩
  obtain ⟨ends, declares⟩ := @inquire_declares_iff { executor := .pooled 100 } 100 {}
    (startingWith (.text "acme")) { signal := 0 } (.answeredBy (.granting .null) 6)
    { isOpen := true } rfl nofun (startingWith_isAccepted _) drivers
  obtain ⟨outcome, ended⟩ := ends (by decide)
  exact ⟨outcome, ended, (declares outcome ended).1.mpr buildable⟩

/-- A search for a prefix that is a number is accepted, and ends in no declared way. -/
theorem inquire_escapes_of_number :
    (startingWith (.int 5)).IsAccepted ∧
    ∃ outcome, (conductStartingWith (.int 5)).outcome? = some outcome ∧
      ¬ (startingWith (.int 5)).Declares .standard (conductStartingWith (.int 5))
        { isOpen := true } outcome := by
  refine ⟨startingWith_isAccepted _, _, rfl, ?_⟩
  apply Inquiry.Escapes.not_declares
  apply Inquiry.Escapes.notText
  intro hasText
  obtain ⟨content, same⟩ := hasText _ List.mem_cons_self
  cases same

end Repository
end InstanceDirectory
