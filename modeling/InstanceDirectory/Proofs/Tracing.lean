import InstanceDirectory.Proofs.Attribution
import InstanceDirectory.Proofs.Disclosure
import InstanceDirectory.Proofs.Observing

/-!
# Every read leaves one trace

A read of the repository that ends in an answer or in a query failure has told one event of
its own, and the outcome decides which one.  What was raised elsewhere, by the driver or by a
predicate of the caller's own, passes as it is and may leave no trace.  After the trace of its
read, a call of the service tells what became of the call.
-/

namespace InstanceDirectory

open Operation

/-- An ending in an answer or in the failure of a query. -/
def IsQueryEnding (outcome : Except Failure α) : Prop :=
  ∀ failure, outcome = .error failure -> failure.query?.isSome

/-- The failure is that of a query, of the given kind, and its details name the lookup. -/
def Failure.Names (failure : Failure) (fault : QueryFault) (lookup : String) : Prop :=
  ∃ errorId details, failure.query? = some (fault, errorId, details) ∧
    Fields.get? details "lookup" = some (.text lookup)

/--
The event that is the trace of an outcome: that of an answer is given, and that of a failure
follows from its kind and names the same lookup as the failure.
-/
inductive ReadEvent.Traces (lookup : String) (key : Value) (ofAnswer : α -> ReadEvent) :
    Except Failure α -> ReadEvent -> Prop where
  | answered (answer : α) : Traces lookup key ofAnswer (.ok answer) (ofAnswer answer)
  | missed {failure : Failure} :
      failure.Names .notFound lookup ->
      Traces lookup key ofAnswer (.error failure) (.missed (.text lookup) key)
  | failed {failure recorded : Failure} :
      failure.Names .internal lookup -> recorded = failure ∨ failure.cause = some recorded ->
      Traces lookup key ofAnswer (.error failure) (.failed (.text lookup) key recorded)
  | rejected {failure : Failure} :
      failure.Names .invalidArgument lookup ->
      Traces lookup key ofAnswer (.error failure) (.rejected (.text lookup) failure)

/-- The account tells one event, with the given entries, and it is the trace of the outcome. -/
def Account.LeavesTrace
    (lookup : String) (key : Value) (ofAnswer : α -> ReadEvent) (entries : Fields)
    (account : Account α) : Prop :=
  ∃ event : ReadEvent, account.entries = [(Event.read event).told entries] ∧
    event.Traces lookup key ofAnswer account.outcome

/--
However a read goes, it tells at most one event, beside those of the pool in the journal.  When
it ends in an answer or in the failure of a query, it has told the trace of that, unless the
driver or something else raised that very failure.
-/
structure Read.LeavesTrace
    (lookup : String) (key : Value) (ofAnswer : α -> ReadEvent) (raises : Failure -> Prop)
    (entries : Fields) (read : Read β α) : Prop where
  ofPool : ∀ (context : Context) (course : Course) (site : Site),
    site.GrowsByPool (read.conduct context course site).site
  atMostOne : ∀ (context : Context) (course : Course) (site : Site) (account : Account α),
    (read.conduct context course site).account? = some account -> account.entries.length ≤ 1
  traced : ∀ (context : Context) (course : Course) (site : Site) (account : Account α),
    (read.conduct context course site).account? = some account ->
    IsQueryEnding account.outcome ->
    account.LeavesTrace lookup key ofAnswer entries ∨
      ∃ failure, account.outcome = .error failure ∧
        ((read.conduct context course site).IsRaised failure ∨ raises failure)

/-! ## Accounts of reads -/

variable {reporter : Reporter} {lookup : String} {key : Value} {ofAnswer : α -> ReadEvent}

theorem Account.length_entries_record
    (event : Event)
    (reporter : Reporter)
    (outcome : Except Failure α) :
    (record event reporter outcome).entries.length ≤ 1 := by
  rcases record_cases event reporter outcome with ⟨-, recorded⟩ | ⟨-, key, refused⟩
  · rw [recorded]
    exact Nat.le_refl 1
  · rw [refused]
    exact Nat.zero_le 1

/-- What ends in an answer or in a query failure was recorded, since a refusal is neither. -/
theorem Account.record_eq
    {event : Event}
    {outcome : Except Failure α}
    (ending : IsQueryEnding (record event reporter outcome).outcome) :
    record event reporter outcome = { entries := [event.told reporter.entries], outcome } := by
  rcases record_cases event reporter outcome with ⟨-, recorded⟩ | ⟨-, key, refused⟩
  · exact recorded
  · rw [refused] at ending
    cases ending _ rfl

theorem Account.record_leavesTrace
    {event : ReadEvent}
    {outcome : Except Failure α}
    (traces : event.Traces lookup key ofAnswer outcome)
    (ending : IsQueryEnding (record (.read event) reporter outcome).outcome) :
    (record (.read event) reporter outcome).LeavesTrace lookup key ofAnswer reporter.entries := by
  rw [record_eq ending]
  exact ⟨event, rfl, traces⟩

/-- The event of an instance that was found. -/
def Lookup.retrieved (lookup : Lookup) (inst : Instance) : ReadEvent :=
  .retrieved (.text lookup.name) (.text inst.id)

namespace Lookup

variable (lookup : Lookup)

theorem internal_names (message errorId : String) (cause : Failure) :
    (Failure.internal message errorId lookup.details cause).Names .internal lookup.name :=
  ⟨errorId, lookup.details, rfl, rfl⟩

/-- A lookup whose operation does not fail as a query leaves the trace of its outcome. -/
theorem conclude_leavesTrace
    {outcome : Except Failure Value}
    (own : ∀ failure, outcome = .error failure -> failure.query?.isSome = false)
    (ending : IsQueryEnding (lookup.conclude reporter outcome).outcome) :
    (lookup.conclude reporter outcome).LeavesTrace lookup.name lookup.key lookup.retrieved
      reporter.entries := by
  cases outcome with
  | error failure =>
      cases isExecution : failure.isExecution with
      | true =>
          simp only [conclude, isExecution, if_true] at ending ⊢
          exact Account.record_leavesTrace (.failed (lookup.internal_names _ _ _) (.inr rfl)) ending
      | false =>
          simp only [conclude, isExecution, Bool.false_eq_true, if_false] at ending
          have isQuery := ending failure rfl
          rw [own failure rfl] at isQuery
          cases isQuery
  | ok row =>
      simp only [conclude] at ending ⊢
      cases single : Row.single row lookup.host lookup.details with
      | ok inst =>
          simp only [single] at ending
          exact Account.record_leavesTrace (.answered inst) ending
      | error failure =>
          simp only [single] at ending
          cases isQuery : failure.query?.isSome with
          | true =>
              rcases Row.single_eq_error_query single isQuery with rfl | ⟨cause, rfl⟩
              · exact Account.record_leavesTrace (.missed ⟨_, _, rfl, rfl⟩) ending
              · exact Account.record_leavesTrace
                  (.failed (lookup.internal_names _ _ _) (.inl rfl)) ending
          | false =>
              rcases failure with ⟨kind, message, cause⟩
              cases kind with
              | query fault errorId details => cases isQuery
              | _ => cases ending _ rfl

/-- A lookup passes on a query failure of its operation. -/
theorem outcome_conclude_query
    {failure : Failure}
    (isQuery : failure.query?.isSome) :
    (lookup.conclude reporter (.error failure)).outcome = .error failure := by
  rcases failure with ⟨kind, message, cause⟩
  cases kind with
  | query fault errorId details => rfl
  | _ => cases isQuery

theorem length_entries_conclude (outcome : Except Failure Value) :
    (lookup.conclude reporter outcome).entries.length ≤ 1 := by
  have silent (failure : Failure) :
      ({ outcome := .error failure } : Account Instance).entries.length ≤ 1 := Nat.zero_le 1
  unfold conclude
  split
  · split
    · exact Account.length_entries_record _ _ _
    · exact silent _
  · split
    · exact Account.length_entries_record _ _ _
    · split
      · exact Account.length_entries_record _ _ _
      · exact Account.length_entries_record _ _ _
      · exact silent _

end Lookup

namespace Repository

/-- The event of a page that was listed. -/
def listed (page : Page) : ReadEvent :=
  .listed (.ofNat page.instances.length) page.total.toValue

/-- The failures that a scan reports name the search. -/
theorem names_of_reports {failure : Failure} (reported : Scan.Reports searchDetails failure) :
    failure.Names .internal searchName := by
  obtain ⟨message, errorId, cause, rfl⟩ := reported
  exact ⟨errorId, searchDetails, rfl, rfl⟩

/-- A search whose operation fails as a query by its own reports only leaves its trace. -/
theorem concludeSearch_leavesTrace
    {outcome : Except Failure Page}
    (own : ∀ failure, outcome = .error failure -> failure.query?.isSome ->
      Scan.Reports searchDetails failure)
    (ending : IsQueryEnding (concludeSearch reporter outcome).outcome) :
    (concludeSearch reporter outcome).LeavesTrace searchName (.text "") listed
      reporter.entries := by
  cases outcome with
  | ok page => exact Account.record_leavesTrace (.answered page) ending
  | error failure =>
      cases isExecution : failure.isExecution with
      | true =>
          simp only [concludeSearch, isExecution, if_true] at ending ⊢
          have names := names_of_reports ⟨"Errors.Internal", "QUERY-3j98f", failure, rfl⟩
          exact Account.record_leavesTrace (.failed names (.inr rfl)) ending
      | false =>
          cases isQuery : failure.query?.isSome with
          | true =>
              obtain ⟨message, errorId, cause, rfl⟩ := own failure rfl isQuery
              have names := names_of_reports ⟨message, errorId, cause, rfl⟩
              exact Account.record_leavesTrace (.failed names (.inl rfl)) ending
          | false =>
              rcases failure with ⟨kind, message, cause⟩
              cases kind with
              | query fault errorId details => cases isQuery
              | store fault => cases isExecution
              | contextCancelled => cases isExecution
              | deadlineExceeded => cases isExecution
              | _ => cases ending _ rfl

/-- A search passes on a query failure of its operation. -/
theorem outcome_concludeSearch_query
    {failure : Failure}
    (isQuery : failure.query?.isSome)
    (ending : IsQueryEnding (concludeSearch reporter (.error failure)).outcome) :
    (concludeSearch reporter (.error failure)).outcome = .error failure := by
  rcases failure with ⟨kind, message, cause⟩
  cases kind with
  | query fault errorId details =>
      cases fault with
      | internal => exact congrArg Account.outcome (Account.record_eq ending)
      | _ => rfl
  | _ => cases isQuery

theorem length_entries_concludeSearch (outcome : Except Failure Page) :
    (concludeSearch reporter outcome).entries.length ≤ 1 := by
  unfold concludeSearch
  split
  · exact Account.length_entries_record _ _ _
  · split
    · exact Account.length_entries_record _ _ _
    · split
      · exact Account.length_entries_record _ _ _
      · exact Nat.zero_le 1

theorem length_entries_rejected (lookup : String) (failure : Failure) :
    (rejected lookup reporter failure : Account α).entries.length ≤ 1 := by
  unfold rejected
  split
  · exact Account.length_entries_record _ _ _
  · exact Nat.zero_le 1

/-- A rejection that names no lookup is traced, and names this one then. -/
theorem rejected_leavesTrace
    {lookup errorId : String}
    {details : Fields}
    {failure : Failure}
    (kind : failure.kind = .query .invalidArgument errorId details)
    (unnamed : Fields.contains details "lookup" = false)
    (ending : IsQueryEnding (rejected lookup reporter failure : Account α).outcome) :
    (rejected lookup reporter failure).LeavesTrace lookup key ofAnswer reporter.entries := by
  have absent : details.find? (fun field => field.1 == "lookup") = none := by
    simpa [Fields.contains] using unnamed
  have names : (nameLookup lookup failure).Names .invalidArgument lookup := by
    refine ⟨errorId, details ++ [("lookup", .text lookup)], ?_, ?_⟩
    · simp only [nameLookup, kind, Fields.insertIfAbsent, unnamed, Bool.false_eq_true, if_false]
      rfl
    · simp [Fields.get?, absent]
  simp only [rejected, kind] at ending ⊢
  exact Account.record_leavesTrace (.rejected names) ending

/-- A draft that does not compile leaves the trace of its rejection, or its failure passes. -/
theorem rejected_leavesTrace_or_passes
    {lookup : String}
    {failure : Failure}
    (ending : IsQueryEnding (rejected lookup reporter failure : Account α).outcome) :
    (rejected lookup reporter failure).LeavesTrace lookup key ofAnswer reporter.entries ∨
      (rejected lookup reporter failure : Account α).outcome = .error failure := by
  rcases failure with ⟨kind, message, cause⟩
  cases kind with
  | query fault errorId details =>
      cases fault with
      | invalidArgument =>
          cases named : Fields.contains details "lookup" with
          | false => exact .inl (rejected_leavesTrace rfl named ending)
          | true =>
              refine .inr ((congrArg Account.outcome (Account.record_eq ending)).trans ?_)
              simp only [nameLookup, Fields.insertIfAbsent, named, if_true]
      | _ => exact .inr rfl
  | _ => exact .inr rfl

end Repository

/-! ## Reads of the repository -/

namespace Read

variable {raises : Failure -> Prop} {entries : Fields}

/-- A read that is settled leaves what its account does. -/
theorem leavesTrace_settled
    {account : Account α}
    (atMostOne : account.entries.length ≤ 1)
    (traced : IsQueryEnding account.outcome ->
      account.LeavesTrace lookup key ofAnswer entries ∨
        ∃ failure, account.outcome = .error failure ∧ raises failure) :
    (Read.settled account : Read β α).LeavesTrace lookup key ofAnswer raises entries where
  ofPool _ _ _ := .of_remarks_eq rfl
  atMostOne := by
    rintro context course site _ ⟨⟩
    exact atMostOne
  traced := by
    rintro context course site _ ⟨⟩ ending
    refine (traced ending).imp_right ?_
    rintro ⟨failure, failed, isRaised⟩
    exact ⟨failure, failed, .inr isRaised⟩

/-- A read that awaits an operation leaves what it concludes, or passes on what was raised. -/
theorem leavesTrace_awaiting
    {given : Failure -> Prop}
    {operation : Operation β}
    {conclude : Except Failure β -> Account α}
    (relays : operation.Relays given)
    (logs : operation.LogsPoolOnly)
    (atMostOne : ∀ outcome, (conclude outcome).entries.length ≤ 1)
    (traced : ∀ outcome,
      (∀ failure, outcome = .error failure -> failure.query?.isSome -> given failure) ->
      IsQueryEnding (conclude outcome).outcome ->
      (conclude outcome).LeavesTrace lookup key ofAnswer entries)
    (passes : ∀ failure, failure.query?.isSome ->
      IsQueryEnding (conclude (.error failure)).outcome ->
      (conclude (.error failure)).outcome = .error failure) :
    (Read.awaiting operation conclude).LeavesTrace lookup key ofAnswer raises entries where
  ofPool context course site := by
    have readLogs : (Read.awaiting operation conclude).LogsPoolOnly := logs
    exact readLogs.conduct context course site
  atMostOne context course site account ended := by
    rcases account_cases ended with ⟨reason, -, -, rfl⟩ | ⟨-, acts, outcome, -, -, rfl, -⟩
    · exact atMostOne _
    · exact atMostOne _
  traced context course site account ended ending := by
    rcases account_cases ended with
      ⟨reason, -, isReason, rfl⟩ | ⟨-, acts, outcome, ends, exchanged, rfl, -⟩
    · refine .inl (traced _ (fun failure same isQuery => ?_) ending)
      cases same
      rcases isReason with rfl | rfl <;> cases isQuery
    · by_cases own : ∀ failure, outcome = .error failure -> failure.query?.isSome -> given failure
      · exact .inl (traced outcome own ending)
      · push Not at own
        obtain ⟨failure, rfl, isQuery, notGiven⟩ := own
        have isRaised := (relays.origin ends isQuery).resolve_left notGiven
        rw [exchanged] at isRaised
        exact .inr ⟨failure, passes failure isQuery ending, .inl isRaised⟩

end Read

/-- Resolving an instance leaves one trace. -/
theorem Resolution.read_leavesTrace
    (resolution : Resolution)
    (repository : Repository)
    (reporter : Reporter) :
    (resolution.read repository reporter).LeavesTrace resolution.lookup.name resolution.lookup.key
      resolution.lookup.retrieved (fun _ => False) reporter.entries := by
  obtain ⟨statement, compiled⟩ := resolution.exists_statement repository.schema
  rw [read_eq_awaiting compiled]
  have relays : (repository.executor.fetchRow statement).Relays fun _ => False :=
    repository.executor.fetchRow_relays statement
  apply Read.leavesTrace_awaiting relays (repository.executor.fetchRow_logsPoolOnly statement)
    resolution.lookup.length_entries_conclude
  · intro outcome own
    exact resolution.lookup.conclude_leavesTrace fun failure failed =>
      Bool.eq_false_iff.mpr (own failure failed)
  · intro failure isQuery _
    exact resolution.lookup.outcome_conclude_query isQuery

/-- Searching leaves one trace. -/
theorem Repository.search_leavesTrace
    (repository : Repository)
    (reporter : Reporter)
    (search : Search) :
    (repository.search reporter search).LeavesTrace searchName (.text "") listed
      (fun failure => .foreign failure ∈ search.predicates) reporter.entries := by
  unfold Repository.search
  cases drafted : searchDraft search with
  | error failure =>
      apply Read.leavesTrace_settled
      · exact Nat.zero_le 1
      · intro ending
        obtain ⟨predicate, -, failed⟩ := exists_of_searchDraft_eq_error drafted
        have isQuery := ending failure rfl
        rcases Predicate.ofPredicate_eq_error failed with ⟨-, rfl⟩ | ⟨-, rfl⟩ <;> cases isQuery
  | ok draft =>
      simp only [compileThen]
      cases compiled : draft.compile repository.schema with
      | ok statement =>
          simp only
          apply Read.leavesTrace_awaiting (repository.searchOperation_relays statement)
            (repository.searchOperation_logsPoolOnly statement) length_entries_concludeSearch
          · exact fun outcome own => concludeSearch_leavesTrace own
          · exact fun failure => outcome_concludeSearch_query
      | error failure =>
          simp only
          apply Read.leavesTrace_settled (length_entries_rejected _ _)
          intro ending
          rcases Draft.compile_eq_error compiled with rfl | ⟨raised, present, rfl⟩
          · exact .inl (rejected_leavesTrace rfl rfl ending)
          · unfold Draft.report at ending ⊢
            split at ending
            next isRender =>
              rw [if_pos isRender]
              exact .inl (rejected_leavesTrace rfl rfl ending)
            next other =>
              rw [if_neg other]
              refine (rejected_leavesTrace_or_passes ending).imp_right fun passes => ?_
              exact ⟨raised, passes, foreign_mem_of_searchDraft drafted present⟩

/-! ## Calls of the service -/

/-- What the service tells of resolving a request. -/
inductive ServiceEvent.Resolves (lookup : String) :
    Except Failure Instance -> List ServiceEvent -> Prop where
  | resolved (inst : Instance) :
      Resolves lookup (.ok inst) [.resolved (.text lookup) (.text inst.id)]
  | failed {failure : Failure} {fault : QueryFault} {errorId : String} {details : Fields} :
      failure.query? = some (fault, errorId, details) ->
      Resolves lookup (.error failure)
        [.resolutionFailed (.text lookup) (.text errorId) (.text failure.message)]

/-- What the service tells of a search. -/
inductive ServiceEvent.Searches : Except Failure Page -> List ServiceEvent -> Prop where
  | searched (page : Page) :
      Searches (.ok page) [.searched (.ofNat page.instances.length) page.total.toValue]
  | failed (failure : Failure) : Searches (.error failure) []

/-- What the service tells of reading a language. -/
inductive ServiceEvent.FallsBack (current : CurrentInstance) :
    Except Failure Instance -> List ServiceEvent -> Prop where
  | read (inst : Instance) : FallsBack current (.ok inst) []
  | fellBack {failure : Failure} {fault : QueryFault} {errorId : String} {details : Fields} :
      failure.query? = some (fault, errorId, details) ->
      FallsBack current (.error failure)
        [.languageFallback current.instanceId (.text errorId)]

/--
A call goes as the read that it makes.  When that has ended in an answer or in the failure of a
query, the call has ended, and it tells events of its own after those of the read.
-/
structure Conduct.Continues
    (tells : Except Failure α -> List ServiceEvent -> Prop) (entries : Fields)
    (read : Conduct α) (call : Conduct β) : Prop where
  sameExchanges : call.exchanges = read.exchanges
  sameSite : call.site = read.site
  sameEnd : call.account?.isSome = read.account?.isSome
  told : ∀ before : Account α, read.account? = some before -> IsQueryEnding before.outcome ->
    ∃ account events, call.account? = some account ∧ tells before.outcome events ∧
      account.entries =
        before.entries ++ events.map fun event => (Event.service event).told entries

/-- A call continues its read when it tells as much from every account. -/
theorem Read.mapAccount_continues
    {tells : Except Failure α -> List ServiceEvent -> Prop}
    {entries : Fields}
    {next : Account α -> Account β}
    (read : Read γ α)
    (goesOn : ∀ before : Account α, IsQueryEnding before.outcome ->
      ∃ events, tells before.outcome events ∧ (next before).entries =
        before.entries ++ events.map fun event => (Event.service event).told entries)
    (context : Context)
    (course : Course)
    (site : Site) :
    ((read.conduct context course site)).Continues tells entries
      ((read.mapAccount next).conduct context course site) := by
  rw [conduct_mapAccount]
  refine ⟨rfl, rfl, Option.isSome_map, fun before ended ending => ?_⟩
  obtain ⟨events, tells, told⟩ := goesOn before ending
  exact ⟨next before, events, congrArg (Option.map next) ended, tells, told⟩

section Apart

variable {observation : Observation} (apart : observation.StandsApart) (least : Level)

include apart

namespace Service

theorem entries_accountResolved
    (lookup : String)
    (before : Account Instance)
    (ending : IsQueryEnding before.outcome) :
    ∃ events, ServiceEvent.Resolves lookup before.outcome events ∧
      (accountResolved lookup (observation.reporter least) before).entries =
        before.entries ++
          events.map fun event => (Event.service event).told observation.entries := by
  rcases before with ⟨entries, outcome⟩
  cases outcome with
  | ok inst =>
      refine ⟨_, .resolved inst, ?_⟩
      simp only [accountResolved, Account.andThen,
        Account.record_of_apart apart least (.service _)]
      rfl
  | error failure =>
      obtain ⟨⟨fault, errorId, details⟩, isQuery⟩ := Option.isSome_iff_exists.mp (ending failure rfl)
      refine ⟨_, .failed isQuery, ?_⟩
      simp only [accountResolved, Account.andThen, isQuery,
        Account.record_of_apart apart least (.service _)]
      rfl

theorem entries_accountSearched (before : Account Page) :
    ∃ events, ServiceEvent.Searches before.outcome events ∧
      (accountSearched (observation.reporter least) before).entries =
        before.entries ++
          events.map fun event => (Event.service event).told observation.entries := by
  rcases before with ⟨entries, outcome⟩
  cases outcome with
  | ok page =>
      refine ⟨_, .searched page, ?_⟩
      simp only [accountSearched, Account.andThen,
        Account.record_of_apart apart least (.service _)]
      rfl
  | error failure => exact ⟨[], .failed failure, rfl⟩

theorem entries_accountLanguage
    (current : CurrentInstance)
    (before : Account Instance)
    (ending : IsQueryEnding before.outcome) :
    ∃ events, ServiceEvent.FallsBack current before.outcome events ∧
      (accountLanguage (observation.reporter least) current before).entries =
        before.entries ++
          events.map fun event => (Event.service event).told observation.entries := by
  rcases before with ⟨entries, outcome⟩
  cases outcome with
  | ok inst => exact ⟨[], .read inst, rfl⟩
  | error failure =>
      obtain ⟨⟨fault, errorId, details⟩, isQuery⟩ := Option.isSome_iff_exists.mp (ending failure rfl)
      refine ⟨_, .fellBack isQuery, ?_⟩
      simp only [accountLanguage, Account.andThen, isQuery,
        Account.record_of_apart apart least (.service _)]
      rfl

end Service
end Apart

/--
Every read of a repository that ends in an answer or in the failure of a query leaves one
trace, which the outcome decides: that of the instance or of the page, or of an absent row, of
a failed lookup or of a rejected statement, with the lookup that the failure names.  What the
driver or a predicate of the caller's own has raised passes as it is.  After the trace of its
read, a call of the service tells one event of resolving a request, one of a search that has
ended well, and one of falling back to the undefined language.
-/
theorem reads_leave_one_trace
    {context : Context}
    (apart : context.observation.StandsApart)
    (service : Service)
    (least : Level)
    (course : Course)
    (site : Site) :
    let entries := context.observation.entries
    let under (read : Reporter -> Read Value Instance) : Conduct Instance :=
      (read (context.observation.reporter least)).conduct
        (service.boundedContext context course.now) course site
    (∀ (reporter : Reporter) (resolution : Resolution),
      (resolution.read service.repository reporter).LeavesTrace resolution.lookup.name
        resolution.lookup.key resolution.lookup.retrieved (fun _ => False) reporter.entries) ∧
    (∀ (reporter : Reporter) (search : Search),
      (service.repository.search reporter search).LeavesTrace Repository.searchName (.text "")
        Repository.listed (fun failure => .foreign failure ∈ search.predicates)
        reporter.entries) ∧
    (∀ current : CurrentInstance,
      (under fun reporter => service.repository.current reporter current).Continues
        (ServiceEvent.Resolves "current") entries
        (service.carryOut least context course site fun reporter =>
          service.currentInstance reporter current)) ∧
    (∀ host : String,
      (under fun reporter => service.repository.byHost reporter host).Continues
        (ServiceEvent.Resolves "host") entries
        (service.carryOut least context course site fun reporter =>
          service.instanceByHost reporter host)) ∧
    (∀ search : Search,
      Conduct.Continues ServiceEvent.Searches entries
        ((service.repository.search (context.observation.reporter least) search).conduct
          (service.boundedContext context course.now) course site)
        (service.carryOut least context course site fun reporter =>
          service.searchInstances reporter search)) ∧
    (∀ current : CurrentInstance,
      (under fun reporter => service.repository.current reporter current).Continues
        (ServiceEvent.FallsBack current) entries
        (service.carryOut least context course site fun reporter =>
          service.defaultLanguage reporter current)) := by
  intro entries under
  refine ⟨fun reporter resolution => resolution.read_leavesTrace service.repository reporter,
    fun reporter search => service.repository.search_leavesTrace reporter search,
    fun current => ?current, fun host => ?host, fun search => ?search, fun current => ?language⟩
  case current =>
    exact Read.mapAccount_continues _ (Service.entries_accountResolved apart least "current") _ _ _
  case host =>
    exact Read.mapAccount_continues _ (Service.entries_accountResolved apart least "host") _ _ _
  case search =>
    exact Read.mapAccount_continues _
      (fun before _ => Service.entries_accountSearched apart least before) _ _ _
  case language =>
    exact Read.mapAccount_continues _ (Service.entries_accountLanguage apart least current) _ _ _

/-- An absent instance is told once by the read and once by the service. -/
theorem reads_leave_one_trace_ofRequest :
    ∃ account, (Service.missing .ofRequest).account? = some account ∧
      account.entries = [
        (Event.read (.missed (.text "instance_by_id") (.text "acme"))).told
          Observation.ofRequest.entries,
        (Event.service (.resolutionFailed (.text "current") (.text "QUERY-n0wng")
          (.text "Errors.Instance.NotFound"))).told Observation.ofRequest.entries] := by
  have apart : Observation.ofRequest.StandsApart := by
    unfold Observation.StandsApart
    decide
  let context : Context := { observation := .ofRequest, signal := 0 }
  obtain ⟨-, -, currents, -⟩ := @reads_leave_one_trace context apart {} .debug
    (.answeredBy (.granting .null) 1) {}
  have ending : IsQueryEnding (.error (Failure.notFound
      [("lookup", .text "instance_by_id"), ("key", .text "acme")]) : Except Failure Instance) := by
    rintro failure ⟨⟩
    rfl
  obtain ⟨account, events, ended, tells, told⟩ := (currents Service.absent).told _ rfl ending
  refine ⟨account, ended, ?_⟩
  cases tells with
  | failed isQuery =>
      cases isQuery
      exact told

/-- A driver that raises the failure of a query itself leaves the read without a trace. -/
theorem current_untraced_of_raised :
    let raised : Failure :=
      .notFound [("lookup", .text "instance_by_id"), ("key", .text "acme")]
    let conduct := (({} : Repository).current {} Service.absent).conduct { signal := 0 }
      (.answeredBy (fun _ => .error raised) 1) {}
    ∃ account, conduct.account? = some account ∧ account.outcome = .error raised ∧
      conduct.IsRaised raised ∧ account.entries = [] :=
  ⟨_, rfl, rfl, ⟨_, List.mem_cons_self, rfl⟩, rfl⟩

end InstanceDirectory
