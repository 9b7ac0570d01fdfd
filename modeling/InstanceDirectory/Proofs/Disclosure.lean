import InstanceDirectory.Proofs.Discretion
import InstanceDirectory.Proofs.Rejecting

/-!
# What reads disclose

Two courses are alike when nothing differs but what drivers say in their failures and what
they hold in unfit rows.  Over the pool every read of the service goes side by side through
courses that are alike: it makes the same requests and ends in the same way.  The failure
that a caller gets shows the name of the read and the caller's own key, and nothing else,
unless the driver raised that very failure.
-/

namespace InstanceDirectory

open Operation

/-- The same happens around and during a read, but for the answers of alike drivers. -/
structure Course.Alike (first second : Course) : Prop where
  now : first.now = second.now
  sent : first.sent = second.sent
  moments : List.Forall₂ Moment.Alike first.moments second.moments
  sentLater : first.sentLater = second.sentLater

/-- Two readings make the same requests, are abandoned alike, and end in related outcomes. -/
structure Conduct.Matches
    (ends : Except Failure α -> Except Failure α -> Prop) (first second : Conduct α) : Prop where
  sameRequests : first.exchanges.map Exchange.request = second.exchanges.map Exchange.request
  sameAbandoned : first.abandoned? = second.abandoned?
  outcomes : Option.Rel ends first.outcome? second.outcome?

/--
Under any context and from any site, courses that are alike let a read end in related outcomes,
provided that nothing goes wrong in its exchanges but what is permitted.
-/
structure Read.Discloses
    (passes : Failure -> Prop) (ends : Except Failure α -> Except Failure α -> Prop)
    (read : Read β α) : Prop where
  agrees : ∀ {context : Context} {course other : Course} {site : Site}, course.Alike other ->
    (∀ exchange ∈ (read.conduct context course site).exchanges, exchange.IsPermitted passes) ->
    (read.conduct context course site).Matches ends (read.conduct context other site)

/-- What a caller is told of two failures: the same report, or one failure that may pass. -/
inductive Failure.Shown (passes : Failure -> Prop) (faults : List QueryFault) (details : Fields) :
    Failure -> Failure -> Prop where
  | passed {failure : Failure} : passes failure -> Shown passes faults details failure failure
  | reported {first second : Failure} {fault : QueryFault} {errorId : String} :
      fault ∈ faults -> first.kind = .query fault errorId details ->
      second.kind = .query fault errorId details -> first.message = second.message ->
      Shown passes faults details first second

variable {passes : Failure -> Prop} {faults : List QueryFault} {details : Fields}
  {reporter : Reporter} {schema : Schema}

namespace Failure.Shown

variable {first second : Failure}

theorem sameKind (shown : first.Shown passes faults details second) : first.kind = second.kind := by
  cases shown with
  | passed _ => rfl
  | reported _ isQuery isQueryToo _ => rw [isQuery, isQueryToo]

theorem sameMessage (shown : first.Shown passes faults details second) :
    first.message = second.message := by
  cases shown with
  | passed _ => rfl
  | reported _ _ _ sameMessage => exact sameMessage

end Failure.Shown

/-- When nothing may pass, an outcome that discloses itself is an answer or a report. -/
theorem Related.answer_or_report
    {outcome ending : Except Failure α}
    (shown : Related Eq (Failure.Shown (fun _ => False) faults details) outcome ending) :
    (∃ answer, outcome = .ok answer) ∨
    ∃ failure fault errorId, outcome = .error failure ∧ fault ∈ faults ∧
      failure.query? = some (fault, errorId, details) := by
  cases shown with
  | @ok answer => exact .inl ⟨answer, rfl⟩
  | @error failure _ shown =>
      cases shown with
      | passed impossible => exact impossible.elim
      | @reported _ fault errorId isReportable kind =>
          exact .inr ⟨failure, fault, errorId, rfl, isReportable, by rw [Failure.query?, kind]⟩

namespace Read

variable {ends : Except Failure α -> Except Failure α -> Prop}

theorem discloses_settled
    {account : Account α}
    (same : ends account.outcome account.outcome) :
    (Read.settled account : Read β α).Discloses passes ends := by
  constructor
  intro context course other site _ _
  exact ⟨rfl, rfl, .some same⟩

/-- A read whose operation matches itself discloses what its accounts say of related outcomes. -/
theorem discloses_awaiting
    {operation : Operation β}
    {conclude : Except Failure β -> Account α}
    {later : Except Failure β -> Except Failure β -> Prop}
    (matching : operation.Matches passes later operation)
    (abandons : ∀ reason, Conduct.IsReason reason ->
      ends (conclude (.error reason)).outcome (conclude (.error reason)).outcome)
    (concludes : ∀ outcome ending, later outcome ending ->
      ends (conclude outcome).outcome (conclude ending).outcome) :
    (Read.awaiting operation conclude).Discloses passes ends := by
  constructor
  intro context course other site alike permitted
  -- The context has fired before the one course exactly if it has before the other.
  cases fired : context.hasFired course.sent course.now with
  | true =>
      have firedToo : context.hasFired other.sent other.now = true := by
        rw [← alike.sent, ← alike.now, fired]
      rw [conduct_of_fired fired, conduct_of_fired firedToo, ← alike.sent]
      exact ⟨rfl, rfl, .some (abandons _ (context.isReason_reason _))⟩
  | false =>
      have unfiredToo : context.hasFired other.sent other.now = false := by
        rw [← alike.sent, ← alike.now, fired]
      rw [conduct_of_unfired fired] at permitted
      rw [conduct_of_unfired fired, conduct_of_unfired unfiredToo, ← alike.sentLater]
      obtain ⟨ended, sameRequests⟩ :=
        (Supervision.Matches.start matching site).after alike.moments permitted
      refine ⟨sameRequests, by simp only [ended.sameFired], ?_⟩
      simp only [Conduct.outcome?, Supervision.outcome?, Option.map_map]
      rcases ended.operation.outcome?_cases with
        ⟨unended, unendedToo⟩ | ⟨outcome, ending, stopped, stoppedToo, related⟩
      · rw [unended, unendedToo]
        exact .none
      · rw [stopped, stoppedToo, ended.sameFired]
        apply Option.Rel.some
        cases ((Supervision.start operation site).after other.moments).fired with
        | true => exact abandons _ (context.isReason_reason _)
        | false => exact concludes outcome ending related

/-- Extending related accounts alike keeps a read from disclosing more. -/
theorem Discloses.mapAccount
    {read : Read γ α}
    {next : Account α -> Account β}
    {later : Except Failure β -> Except Failure β -> Prop}
    (discloses : read.Discloses passes ends)
    (extending : ∀ account other : Account α, ends account.outcome other.outcome ->
      later (next account).outcome (next other).outcome) :
    (read.mapAccount next).Discloses passes later := by
  constructor
  intro context course other site alike permitted
  rw [conduct_mapAccount] at permitted ⊢
  rw [conduct_mapAccount]
  obtain ⟨sameRequests, sameAbandoned, outcomes⟩ := discloses.agrees alike permitted
  refine ⟨sameRequests, sameAbandoned, ?_⟩
  simp only [Conduct.outcome?, Option.map_map] at outcomes ⊢
  generalize (read.conduct context course site).account? = account? at outcomes ⊢
  generalize (read.conduct context other site).account? = otherAccount? at outcomes ⊢
  cases account? with
  | none =>
      cases otherAccount? with
      | none => exact .none
      | some otherAccount => cases outcomes
  | some account =>
      cases otherAccount? with
      | none => cases outcomes
      | some otherAccount =>
          cases outcomes with
          | some related => exact .some (extending account otherAccount related)

end Read

/-- What recording makes of related outcomes is related, also when it is refused. -/
theorem Account.record_related
    {ends : Except Failure α -> Except Failure α -> Prop}
    {event other : Event}
    {outcome ending : Except Failure α}
    (alike : event.IsLike other)
    (related : ends outcome ending)
    (refusals : ¬ event.IsAdmittedBy reporter ->
      ∀ key, ends (.error (.duplicate key)) (.error (.duplicate key))) :
    ends (record event reporter outcome).outcome (record other reporter ending).outcome := by
  rcases record_alike alike reporter outcome ending with
    ⟨recorded, recordedToo⟩ | ⟨refused, key, repeated, repeatedToo⟩
  · rw [recorded, recordedToo]
    exact related
  · rw [repeated, repeatedToo]
    exact refusals refused key

/-- Failing twice for a field that is given twice may pass unless the reporter is unobtrusive. -/
def Reporter.MayRepeat (reporter : Reporter) (passes : Failure -> Prop) : Prop :=
  ¬ reporter.IsUnobtrusive -> ∀ key, passes (.duplicate key)

theorem Reporter.mayRepeat
    (others : ∀ failure, failure.query? = none -> passes failure)
    (reporter : Reporter) :
    reporter.MayRepeat passes :=
  fun _ _ => others _ rfl

/-- Recording an event of a read shows nothing that its outcomes do not show. -/
theorem Account.record_shown
    {event other : ReadEvent}
    {outcome ending : Except Failure α}
    (alike : (Event.read event).IsLike (.read other))
    (related : Related Eq (Failure.Shown passes faults details) outcome ending)
    (repeats : reporter.MayRepeat passes) :
    Related Eq (Failure.Shown passes faults details)
      (record (.read event) reporter outcome).outcome
      (record (.read other) reporter ending).outcome := by
  apply record_related alike related
  intro refused key
  exact .error (.passed (repeats (fun unobtrusive => refused (unobtrusive.admits event)) key))

/-- A list of values that makes no instance is answered with an internal failure. -/
theorem exists_internal_of_isUndecodable
    {items : List Value}
    (unfit : Row.IsUndecodable (.list items))
    (host : String)
    (details : Fields) :
    ∃ cause, Row.single (.list items) host details =
      .error (.internal "Errors.Internal" "QUERY-d9nw" details cause) := by
  rcases Row.single_cases (.inr ⟨items, rfl⟩) host details with
    ⟨absurdity, -⟩ | ⟨inst, decoded, -⟩ | ⟨cause, -, -, failed⟩
  · cases absurdity
  · exact absurd decoded (unfit host inst)
  · exact ⟨cause, failed⟩

namespace Lookup

variable {lookup : Lookup}

/-- The failures that a lookup reports. -/
def reportable : List QueryFault := [.internal, .notFound]

/-- A failed execution is reported with the details of the lookup. -/
theorem conclude_execution_shown
    {first second : Failure}
    (isExecution : first.isExecution)
    (isExecutionToo : second.isExecution)
    (repeats : reporter.MayRepeat passes) :
    Related Eq (Failure.Shown passes Lookup.reportable lookup.details)
      (lookup.conclude reporter (.error first)).outcome
      (lookup.conclude reporter (.error second)).outcome := by
  simp only [conclude, isExecution, isExecutionToo, if_true, internal_details]
  exact Account.record_shown ⟨rfl, rfl⟩
    (.error (.reported List.mem_cons_self rfl rfl rfl)) repeats

/-- The answers of a lookup to rows that are alike show nothing that may not be shown. -/
theorem single_shown
    {row other : Value}
    (alike : Row.Alike Row.IsUndecodable row other)
    (permitted : Row.IsPermitted passes row) :
    Related Eq (Failure.Shown passes Lookup.reportable lookup.details)
      (Row.single row lookup.host lookup.details)
      (Row.single other lookup.host lookup.details) := by
  have internal (first second : Failure) :
      Related Eq (Failure.Shown passes Lookup.reportable lookup.details)
        (.error (.internal "Errors.Internal" "QUERY-d9nw" lookup.details first) :
          Except Failure Instance)
        (.error (.internal "Errors.Internal" "QUERY-d9nw" lookup.details second)) := by
    rw [internal_details, internal_details]
    exact .error (.reported List.mem_cons_self rfl rfl rfl)
  rcases alike with rfl | ⟨items, others, rfl, rfl, unfit, unfitToo⟩
  · unfold Row.single
    split
    · rw [notFound_details]
      exact .error (.reported (List.mem_cons_of_mem _ List.mem_cons_self) rfl rfl rfl)
    next _ _ =>
      cases decoded : Row.decode row lookup.host with
      | ok inst => exact .ok rfl
      | error failure =>
          change Related _ _ (.error (Row.report _ _ _ failure)) (.error (Row.report _ _ _ failure))
          unfold Row.report
          split
          · exact internal _ _
          next other =>
            exact .error (.passed ((permitted _ _ decoded).resolve_left other))
  · obtain ⟨first, failed⟩ := exists_internal_of_isUndecodable unfit lookup.host lookup.details
    obtain ⟨second, failedToo⟩ :=
      exists_internal_of_isUndecodable unfitToo lookup.host lookup.details
    rw [failed, failedToo]
    exact internal _ _

/-- What a lookup concludes from related outcomes of its operation shows no more of them. -/
theorem conclude_shown
    {outcome ending : Except Failure Value}
    (related : Related
      (fun row other => Row.Alike Row.IsUndecodable row other ∧ Row.IsPermitted passes row)
      (Failure.Surfaces passes lookup.details) outcome ending)
    (repeats : reporter.MayRepeat passes) :
    Related Eq (Failure.Shown passes Lookup.reportable lookup.details)
      (lookup.conclude reporter outcome).outcome
      (lookup.conclude reporter ending).outcome := by
  cases related with
  | @error failure fault surfaces =>
      cases surfaces with
      | passed passing =>
          cases isExecution : failure.isExecution with
          | true => exact conclude_execution_shown isExecution isExecution repeats
          | false =>
              simp only [conclude, isExecution, Bool.false_eq_true, if_false]
              exact .error (.passed passing)
      | store isStore isStoreToo =>
          exact conclude_execution_shown (Failure.isExecution_of_isStore isStore)
            (Failure.isExecution_of_isStore isStoreToo) repeats
      | reported isInternal isInternalToo sameMessage =>
          simp only [conclude, Failure.isExecution, isInternal, isInternalToo,
            Bool.false_eq_true, if_false]
          exact .error (.reported List.mem_cons_self isInternal isInternalToo sameMessage)
  | @ok row other related =>
      have shown := @single_shown passes lookup row other related.1 related.2
      simp only [conclude]
      generalize Row.single row lookup.host lookup.details = answer at shown ⊢
      generalize Row.single other lookup.host lookup.details = reply at shown ⊢
      cases shown with
      | ok same =>
          subst same
          exact Account.record_shown ⟨rfl, rfl⟩ (.ok rfl) repeats
      | error shown =>
          simp only [← shown.sameKind]
          split
          · exact Account.record_shown ⟨rfl, rfl⟩ (.error shown) repeats
          · exact Account.record_shown ⟨rfl, rfl⟩ (.error shown) repeats
          · exact .error shown

/-- A lookup over the pool discloses no more than its details. -/
theorem lookUp_discloses
    {repository : Repository}
    {prefetch : Int}
    {statement : Statement}
    (pooled : repository.executor = .pooled prefetch)
    (lookup : Lookup)
    (repeats : reporter.MayRepeat passes) :
    (Read.awaiting (repository.executor.fetchRow statement)
      (lookup.conclude reporter)).Discloses passes
        (Related Eq (Failure.Shown passes Lookup.reportable lookup.details)) := by
  rw [pooled]
  apply Read.discloses_awaiting (Executor.fetchRowPooled_matches statement)
  · intro reason isReason
    exact conclude_execution_shown isReason.isExecution isReason.isExecution repeats
  · intro outcome ending related
    exact conclude_shown related repeats

end Lookup

/-- Resolving an instance over the pool discloses no more than the details of its lookup. -/
theorem Resolution.read_discloses
    {repository : Repository}
    {prefetch : Int}
    (pooled : repository.executor = .pooled prefetch)
    (resolution : Resolution)
    (repeats : reporter.MayRepeat passes) :
    (resolution.read repository reporter).Discloses passes
      (Related Eq (Failure.Shown passes Lookup.reportable resolution.lookup.details)) := by
  obtain ⟨statement, compiled⟩ := resolution.exists_statement repository.schema
  rw [read_eq_awaiting compiled]
  exact Lookup.lookUp_discloses pooled resolution.lookup repeats

namespace Repository

/-- A failed execution is reported with the details of every search. -/
theorem concludeSearch_execution_shown
    {first second : Failure}
    (isReportable : .internal ∈ faults)
    (isExecution : first.isExecution)
    (isExecutionToo : second.isExecution)
    (repeats : reporter.MayRepeat passes) :
    Related Eq (Failure.Shown passes faults searchDetails)
      (concludeSearch reporter (.error first)).outcome
      (concludeSearch reporter (.error second)).outcome := by
  simp only [concludeSearch, isExecution, isExecutionToo, if_true]
  exact Account.record_shown ⟨rfl, rfl⟩ (.error (.reported isReportable rfl rfl rfl)) repeats

/-- A search that was executed reports internal failures only. -/
theorem concludeSearch_shown
    {outcome ending : Except Failure Page}
    (isReportable : .internal ∈ faults)
    (related : Related Eq (Failure.Surfaces passes searchDetails) outcome ending)
    (repeats : reporter.MayRepeat passes) :
    Related Eq (Failure.Shown passes faults searchDetails)
      (concludeSearch reporter outcome).outcome (concludeSearch reporter ending).outcome := by
  cases related with
  | ok same =>
      subst same
      exact Account.record_shown ⟨rfl, rfl⟩ (.ok rfl) repeats
  | @error failure fault surfaces =>
      cases surfaces with
      | passed passing =>
          cases isExecution : failure.isExecution with
          | true =>
              exact concludeSearch_execution_shown isReportable isExecution isExecution repeats
          | false =>
              simp only [concludeSearch, isExecution, Bool.false_eq_true, if_false]
              split
              · exact Account.record_shown ⟨rfl, rfl⟩ (.error (.passed passing)) repeats
              · exact .error (.passed passing)
      | store isStore isStoreToo =>
          exact concludeSearch_execution_shown isReportable
            (Failure.isExecution_of_isStore isStore) (Failure.isExecution_of_isStore isStoreToo)
            repeats
      | reported isInternal isInternalToo sameMessage =>
          simp only [concludeSearch, Failure.isExecution, isInternal, isInternalToo,
            Bool.false_eq_true, if_false]
          exact Account.record_shown ⟨rfl, rfl⟩
            (.error (.reported isReportable isInternal isInternalToo sameMessage)) repeats

/-- A search that is executed over the pool discloses no more than its name. -/
theorem searchOperation_discloses
    {repository : Repository}
    {prefetch : Int}
    (pooled : repository.executor = .pooled prefetch)
    (statement : Statement)
    (isReportable : .internal ∈ faults)
    (repeats : reporter.MayRepeat passes) :
    (Read.awaiting (repository.searchOperation statement) (concludeSearch reporter)).Discloses
      passes (Related Eq (Failure.Shown passes faults searchDetails)) := by
  apply Read.discloses_awaiting (searchOperation_matches pooled statement)
  · intro reason isReason
    exact concludeSearch_execution_shown isReportable isReason.isExecution isReason.isExecution
      repeats
  · intro outcome ending related
    exact concludeSearch_shown isReportable related repeats

/-- The kinds of failures that a search reports. -/
def reportable : List QueryFault := [.internal, .invalidArgument]

/-- A failure that a predicate of the caller's own raised, as it is or with the search's name. -/
def RaisedByCaller (search : Search) (failure : Failure) : Prop :=
  ∃ raised, .foreign raised ∈ search.predicates ∧
    (failure = raised ∨ failure = nameLookup searchName raised)

/-- A search without a statement shows its name, or what a predicate of the caller's own raised. -/
theorem rejected_shown
    {search : Search}
    {draft : Draft}
    {failure : Failure}
    (drafted : searchDraft search = .ok draft)
    (failed : draft.compile schema = .error failure)
    (own : ∀ failure, RaisedByCaller search failure -> passes failure)
    (repeats : reporter.MayRepeat passes) :
    Related Eq (Failure.Shown passes reportable searchDetails)
      (rejected searchName reporter failure : Account Page).outcome
      (rejected searchName reporter failure : Account Page).outcome := by
  have rejection (cause : Option Failure) :
      Related Eq (Failure.Shown passes reportable searchDetails)
        (rejected searchName reporter (Draft.rejected cause) : Account Page).outcome
        (rejected searchName reporter (Draft.rejected cause) : Account Page).outcome :=
    Account.record_shown ⟨rfl, rfl⟩
      (.error (.reported (List.mem_cons_of_mem _ List.mem_cons_self) rfl rfl rfl)) repeats
  rcases Draft.compile_eq_error failed with rfl | ⟨raised, present, rfl⟩
  · exact rejection none
  · unfold Draft.report
    split
    · exact rejection (some raised)
    · have applied := foreign_mem_of_searchDraft drafted present
      unfold rejected
      split
      · exact Account.record_shown ⟨rfl, rfl⟩
          (.error (.passed (own _ ⟨raised, applied, .inr rfl⟩))) repeats
      · exact .error (.passed (own _ ⟨raised, applied, .inl rfl⟩))

/-- A search over the pool discloses no more than its name. -/
theorem search_discloses
    {repository : Repository}
    {prefetch : Int}
    (pooled : repository.executor = .pooled prefetch)
    (reporter : Reporter)
    (search : Search)
    (own : ∀ failure, RaisedByCaller search failure -> passes failure)
    (others : ∀ failure, failure.query? = none -> passes failure) :
    (repository.search reporter search).Discloses passes
      (Related Eq (Failure.Shown passes reportable searchDetails)) := by
  have repeats := reporter.mayRepeat others
  unfold Repository.search
  cases drafted : searchDraft search with
  | error failure =>
      apply Read.discloses_settled
      obtain ⟨predicate, -, failed⟩ := exists_of_searchDraft_eq_error drafted
      have other : failure.query? = none := by
        rcases Predicate.ofPredicate_eq_error failed with ⟨-, rfl⟩ | ⟨-, rfl⟩ <;> rfl
      exact .error (.passed (others failure other))
  | ok draft =>
      cases compiled : draft.compile repository.schema with
      | error failure =>
          simp only [compileThen, compiled]
          apply Read.discloses_settled
          exact rejected_shown drafted compiled own repeats
      | ok statement =>
          simp only [compileThen, compiled]
          exact searchOperation_discloses pooled statement List.mem_cons_self repeats

end Repository

namespace Service

variable {account other : Account Instance}

/-- What is reported of a resolved request shows nothing that its outcome does not show. -/
theorem accountResolved_shown
    (others : ∀ failure, failure.query? = none -> passes failure)
    (lookup : String)
    (related : Related Eq (Failure.Shown passes faults details) account.outcome other.outcome) :
    Related Eq (Failure.Shown passes faults details)
      (accountResolved lookup reporter account).outcome
      (accountResolved lookup reporter other).outcome := by
  simp only [accountResolved, Account.andThen]
  generalize account.outcome = outcome at related ⊢
  generalize other.outcome = ending at related ⊢
  have refusals (key : String) : Related Eq (Failure.Shown passes faults details)
      (.error (.duplicate key) : Except Failure Instance) (.error (.duplicate key)) :=
    .error (.passed (others _ rfl))
  cases related with
  | ok same =>
      subst same
      exact Account.record_related ⟨rfl, rfl⟩ (.ok rfl) fun _ => refusals
  | @error failure fault shown =>
      have sameQuery : fault.query? = failure.query? := by
        rw [Failure.query?, Failure.query?, shown.sameKind]
      simp only [sameQuery]
      cases failure.query? with
      | none => exact .error shown
      | some query => exact Account.record_related ⟨rfl, rfl⟩ (.error shown) fun _ => refusals

/-- The default language shows nothing of a failure to read an instance. -/
theorem accountLanguage_shown
    (others : ∀ failure, failure.query? = none -> passes failure)
    (current : CurrentInstance)
    (related : Related Eq (Failure.Shown passes faults details) account.outcome other.outcome) :
    Related Eq (Failure.Shown passes faults details)
      (accountLanguage reporter current account).outcome
      (accountLanguage reporter current other).outcome := by
  simp only [accountLanguage, Account.andThen]
  generalize account.outcome = outcome at related ⊢
  generalize other.outcome = ending at related ⊢
  cases related with
  | ok same =>
      subst same
      exact .ok rfl
  | @error failure fault shown =>
      have sameQuery : fault.query? = failure.query? := by
        rw [Failure.query?, Failure.query?, shown.sameKind]
      simp only [sameQuery]
      cases failure.query? with
      | none => exact .error shown
      | some query =>
          apply Account.record_related ⟨rfl, rfl⟩ (.ok rfl)
          intro _ key
          exact .error (.passed (others _ rfl))

/-- What is reported of a search shows nothing that its outcome does not show. -/
theorem accountSearched_shown
    {searched found : Account Page}
    (others : ∀ failure, failure.query? = none -> passes failure)
    (related : Related Eq (Failure.Shown passes faults details) searched.outcome found.outcome) :
    Related Eq (Failure.Shown passes faults details)
      (accountSearched reporter searched).outcome (accountSearched reporter found).outcome := by
  simp only [accountSearched, Account.andThen]
  generalize searched.outcome = outcome at related ⊢
  generalize found.outcome = ending at related ⊢
  cases related with
  | ok same =>
      subst same
      apply Account.record_related ⟨rfl, rfl⟩ (.ok rfl)
      intro _ key
      exact .error (.passed (others _ rfl))
  | error shown => exact .error shown

end Service

/-- Two failures are the same to a caller: their kinds, which hold their details, and messages. -/
structure Failure.TellsSame (first second : Failure) : Prop where
  sameKind : first.kind = second.kind
  sameMessage : first.message = second.message

/-- The driver raised the failure in answer to a request of the read. -/
def Conduct.IsRaised (conduct : Conduct α) (failure : Failure) : Prop :=
  ∃ exchange ∈ conduct.exchanges, exchange.failure? = some failure

/--
Under any context, also one that a service has bounded, a read keeps to itself what the driver
says and what it holds in unfit rows, and a query failure that it ends in has the given details
only, unless it was raised elsewhere.
-/
structure Read.IsDiscreet (details : Fields) (raises : Failure -> Prop) (read : Read β α) :
    Prop where
  /-- Courses that are alike end in the same way. -/
  alike : ∀ (context : Context) (course other : Course) (site : Site), course.Alike other ->
    (read.conduct context course site).Matches (Related Eq Failure.TellsSame)
      (read.conduct context other site)
  /-- Nothing else stands among the details of a query failure. -/
  confined : ∀ (context : Context) (course : Course) (site : Site) (failure : Failure)
    (fault : QueryFault) (errorId : String) (shown : Fields),
    (read.conduct context course site).outcome? = some (.error failure) ->
    failure.query? = some (fault, errorId, shown) ->
    shown = details ∨ (read.conduct context course site).IsRaised failure ∨ raises failure

theorem Answerer.Alike.refl (answerer : Answerer) : answerer.Alike answerer := by
  intro request
  cases answerer request with
  | error failure => exact .error (.inl rfl)
  | ok reply =>
      apply Related.ok
      cases request with
      | nextRow =>
          cases reply with
          | none => exact .none
          | some row => exact .some (.inl rfl)
      | fetchRow connection statement => exact .inl rfl
      | perform => rfl
      | acquire => rfl
      | _ => trivial

theorem Course.Alike.refl (course : Course) : course.Alike course := by
  refine ⟨rfl, rfl, ?_, rfl⟩
  rw [List.forall₂_same]
  intro moment _
  cases moment with
  | answered answerer => exact .answered (.refl answerer)
  | fired => exact .fired

/-- What is wrong with a row is no failure of a query. -/
theorem Row.query?_of_fault?
    {row : Value}
    {failure : Failure}
    (faulty : fault? row = some failure) :
    failure.query? = none := by
  have failed := addTo_of_fault faulty {}
  exact addTo_neverQueries {} row failure failed

/-- What goes wrong in an exchange is permitted if its own failure and no query may not pass. -/
theorem Exchange.isPermitted
    {exchange : Exchange}
    (others : ∀ failure, failure.query? = none -> passes failure)
    (raised : ∀ failure, exchange.failure? = some failure -> passes failure) :
    exchange.IsPermitted passes := by
  rcases exchange with ⟨request, answer⟩
  cases answer with
  | error failure => exact .inr (raised failure rfl)
  | ok reply =>
      cases request with
      | fetchRow connection statement =>
          intro host failure failed
          exact .inr (others failure (Row.decode_neverQueries reply host failure failed))
      | nextRow =>
          intro row failure _ faulty
          exact .inr (others failure (Row.query?_of_fault? faulty))
      | _ => trivial

namespace Read

variable {read : Read β α} {context : Context} {course other : Course} {site : Site}

/-- What is disclosed when every failure may pass as it is tells a caller the same. -/
theorem Discloses.tellsSame
    (discloses : read.Discloses (fun _ => True)
      (Related Eq (Failure.Shown (fun _ => True) faults details)))
    (alike : course.Alike other) :
    (read.conduct context course site).Matches (Related Eq Failure.TellsSame)
      (read.conduct context other site) := by
  obtain ⟨sameRequests, sameAbandoned, outcomes⟩ := discloses.agrees alike fun exchange _ =>
    exchange.isPermitted (fun _ _ => trivial) fun _ _ => trivial
  refine ⟨sameRequests, sameAbandoned, ?_⟩
  generalize (read.conduct context course site).outcome? = outcome at outcomes ⊢
  generalize (read.conduct context other site).outcome? = ending at outcomes ⊢
  cases outcomes with
  | none => exact .none
  | some related =>
      apply Option.Rel.some
      cases related with
      | ok same => exact .ok same
      | error shown => exact .error ⟨shown.sameKind, shown.sameMessage⟩

/-- A query failure that a read ends in may pass or has the details that are disclosed. -/
theorem Discloses.details_or_passes
    {failure : Failure}
    {fault : QueryFault}
    {errorId : String}
    {shown : Fields}
    (discloses : read.Discloses passes (Related Eq (Failure.Shown passes faults details)))
    (permitted : ∀ exchange ∈ (read.conduct context course site).exchanges,
      exchange.IsPermitted passes)
    (failed : (read.conduct context course site).outcome? = some (.error failure))
    (isQuery : failure.query? = some (fault, errorId, shown)) :
    shown = details ∨ passes failure := by
  -- The run is compared with itself.
  have outcomes := (discloses.agrees (Course.Alike.refl course) permitted).outcomes
  rw [failed] at outcomes
  cases outcomes with
  | some related =>
      cases related with
      | error told =>
          cases told with
          | passed passing => exact .inr passing
          | reported _ kind _ _ =>
              rw [Failure.query?, kind] at isQuery
              cases isQuery
              exact .inl rfl

end Read

/-- Reads are discreet that disclose reports and whatever may pass. -/
theorem Read.isDiscreet_of_discloses
    {read : Read β α}
    {raises : Failure -> Prop}
    (faults : List QueryFault)
    (discloses : ∀ passes : Failure -> Prop,
      (∀ failure, failure.query? = none -> passes failure) ->
      (∀ failure, raises failure -> passes failure) ->
      read.Discloses passes (Related Eq (Failure.Shown passes faults details))) :
    read.IsDiscreet details raises := by
  constructor
  · intro context course other site alike
    exact (discloses (fun _ => True) (fun _ _ => trivial) fun _ _ => trivial).tellsSame alike
  · intro context course site failure fault errorId shown failed isQuery
    -- What may pass is what no caller takes for a query failure, and what was raised elsewhere.
    let passes (failure : Failure) : Prop := failure.query? = none ∨
      (read.conduct context course site).IsRaised failure ∨ raises failure
    have permitted : ∀ exchange ∈ (read.conduct context course site).exchanges,
        exchange.IsPermitted passes := by
      intro exchange happened
      apply exchange.isPermitted fun _ other => .inl other
      intro failure raised
      exact .inr (.inl ⟨exchange, happened, raised⟩)
    have confined := discloses passes (fun _ other => .inl other) fun _ raised => .inr (.inr raised)
    rcases confined.details_or_passes permitted failed isQuery with same | other | elsewhere
    · exact .inl same
    · cases other.symm.trans isQuery
    · exact .inr elsewhere

/--
Over the pool the reads of the service are discreet: what a driver says in its failures and
what it holds in unfit rows changes neither the value that a read returns nor the failure that
it ends in.  The details of a query failure are the name of the read and, for a lookup, the key
that the caller gave, unless the driver itself raised that very failure, or a predicate of the
caller's own did.
-/
theorem Service.reads_discreet
    {service : Service}
    {prefetch : Int}
    (pooled : service.repository.executor = .pooled prefetch)
    (reporter : Reporter) :
    (∀ current : CurrentInstance, (service.currentInstance reporter current).IsDiscreet
      [("lookup", .text "instance_by_id"), ("key", current.instanceId)] fun _ => False) ∧
    (∀ host : String, (service.instanceByHost reporter host).IsDiscreet
      [("lookup", .text "instance_by_host"), ("key", .text (stripPort host))] fun _ => False) ∧
    (∀ search : Search, (service.searchInstances reporter search).IsDiscreet
      [("lookup", .text "search_instances")] (Repository.RaisedByCaller search)) ∧
    (∀ current : CurrentInstance, (service.defaultLanguage reporter current).IsDiscreet
      [("lookup", .text "instance_by_id"), ("key", current.instanceId)] fun _ => False) := by
  refine ⟨fun current => ?current, fun host => ?host, fun search => ?search,
    fun current => ?language⟩
  case current =>
    refine Read.isDiscreet_of_discloses Lookup.reportable fun passes others _ => ?_
    have discloses :=
      (Resolution.ofRequest current).read_discloses pooled (reporter.mayRepeat others)
    exact discloses.mapAccount fun _ _ => accountResolved_shown others _
  case host =>
    refine Read.isDiscreet_of_discloses Lookup.reportable fun passes others _ => ?_
    have discloses := (Resolution.ofHost host).read_discloses pooled (reporter.mayRepeat others)
    exact discloses.mapAccount fun _ _ => accountResolved_shown others _
  case search =>
    refine Read.isDiscreet_of_discloses Repository.reportable fun passes others own => ?_
    have discloses := Repository.search_discloses pooled reporter search own others
    exact discloses.mapAccount fun _ _ => accountSearched_shown others
  case language =>
    refine Read.isDiscreet_of_discloses Lookup.reportable fun passes others _ => ?_
    have discloses :=
      (Resolution.ofRequest current).read_discloses pooled (reporter.mayRepeat others)
    exact discloses.mapAccount fun _ _ => accountLanguage_shown others current

/-- A driver whose statements fail with the given failure. -/
def Answerer.failing (failure : Failure) : Answerer
  | .fetchRow _ _ => .error failure
  | request => granting .null request

/-- A failure of the server. -/
def Failure.ofServer (message : String) : Failure where
  kind := .driver .server
  message := message

/-- What a server says when it fails is all that two failing drivers differ in. -/
theorem Answerer.failing_alike (message other : String) :
    (failing (.ofServer message)).Alike (failing (.ofServer other)) := by
  intro request
  cases request with
  | fetchRow connection statement => exact .error (.inr ⟨rfl, rfl⟩)
  | _ => exact Alike.refl (granting .null) _

namespace Service

/-- A service over a pool. -/
def pooling : Service where
  repository := { executor := .pooled 100 }

/-- The instance of a request. -/
def requested : CurrentInstance where
  instanceId := .text "acme"
  requestedDomain := "acme.example"

/-- Loading the instance while statements fail. -/
def conductFailing (failure : Failure) : Conduct Instance :=
  (pooling.currentInstance {} requested).conduct { signal := 0 }
    (.answeredBy (.failing failure) 3) { isOpen := true }

/-- Whatever a server complains about, loading ends alike, and shows the lookup and its key. -/
theorem reads_discreet_of_complaints :
    let first := conductFailing (.ofServer "relation instances_2 does not exist")
    let second := conductFailing (.ofServer "permission denied for role acme")
    pooling.repository.executor = .pooled 100 ∧
    first.Matches (Related Eq Failure.TellsSame) second ∧
    ∃ failure, first.outcome? = some (.error failure) ∧ failure.query? =
      some (.internal, "QUERY-d9nw",
        [("lookup", .text "instance_by_id"), ("key", .text "acme")]) := by
  intro first second
  obtain ⟨current, -⟩ := @reads_discreet pooling 100 rfl {}
  refine ⟨rfl, (current requested).alike _ _ _ _ ⟨rfl, rfl, ?_, rfl⟩, _, rfl, rfl⟩
  have alike := Moment.Alike.answered (Answerer.failing_alike
    "relation instances_2 does not exist" "permission denied for role acme")
  exact .cons alike (.cons alike (.cons alike .nil))

/-- A driver that raises a query failure itself decides what its details show. -/
theorem currentInstance_shows_raised :
    let raised : Failure := {
      kind := .query .internal "QUERY-d9nw" [("host", .text "db-1")]
      message := "Errors.Internal" }
    ∃ failure shown, (conductFailing raised).outcome? = some (.error failure) ∧
      failure.query? = some (.internal, "QUERY-d9nw", shown) ∧
      shown ≠ [("lookup", .text "instance_by_id"), ("key", .text "acme")] :=
  ⟨_, _, rfl, rfl, by simp⟩

end Service
end InstanceDirectory
