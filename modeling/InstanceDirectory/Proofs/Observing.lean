import InstanceDirectory.Proofs.Fallback
import InstanceDirectory.Proofs.Logging
import Mathlib.Data.Option.Basic

/-!
# Reads under two observations

An observation is attached to the events of a read and has no other influence.  Two runs of a
read that differ in the observation alone make the same exchanges and end alike; they report
the same events, each run with the entries of its own observation, and what they write of the
pool carries none of them.

The one condition is that no entry has a key that an event or the log uses itself, since such
an event is refused and its read fails.  The keys of the log include the one that it uses for
the name of the level when an event is written.
-/

namespace InstanceDirectory

/-- The keys that events of service calls use themselves. -/
def ServiceEvent.ownKeys : List String := [
    "lookup", "resolved_instance_id", "error_id", "message", "returned", "total",
    "fallback_instance_id", "reason"
  ]

/-- The fields of an event of a service call are among its own keys. -/
theorem ServiceEvent.ownKeys_of_contains
    {event : ServiceEvent}
    {key : String}
    (present : Fields.contains event.entry.fields key) :
    key ∈ ownKeys := by
  cases event <;> simp [entry, Fields.contains] at present <;>
    rcases present with rfl | rfl | rfl <;> decide

/--
No entry has a key that an event of a read or of a service call uses itself, or that the log
keeps for itself.
-/
def Observation.StandsApart (observation : Observation) : Prop :=
  ∀ entry ∈ observation.entries,
    entry.1 ∉ ReadEvent.ownKeys ∧ entry.1 ∉ ServiceEvent.ownKeys ∧
      entry.1 ∉ LogEntry.keptKeys ∧ entry.1 ≠ LogEntry.writtenKey

namespace Event

/-- An event with its own fields first and then the given entries. -/
def told (entries : Fields) (event : Event) : LogEntry :=
  { event.entry with fields := event.entry.fields ++ entries }

/-- An event of a read or of a service call. -/
def IsOfReads : Event -> Prop
  | .read _ => True
  | .service _ => True
  | .pool _ => False

theorem IsOfReads.read (event : ReadEvent) : (Event.read event).IsOfReads := trivial

theorem IsOfReads.service (event : ServiceEvent) : (Event.service event).IsOfReads := trivial

/-- An observation that stands apart can be attached to every event of a read. -/
theorem IsOfReads.isAdmittedBy
    {event : Event}
    {observation : Observation}
    (isOfReads : event.IsOfReads)
    (apart : observation.StandsApart)
    (least : Level) :
    event.IsAdmittedBy { observation := some observation, least } := by
  intro entry present
  obtain ⟨notRead, notService, notKept, notWritten⟩ := apart entry present
  refine ⟨?_, notKept, fun _ => notWritten⟩
  rw [← Bool.not_eq_true]
  cases event with
  | read event => exact fun repeats => notRead (ReadEvent.ownKeys_of_contains repeats)
  | service event => exact fun repeats => notService (ServiceEvent.ownKeys_of_contains repeats)
  | pool event => exact isOfReads.elim

end Event

/-- Two accounts have the same outcome and tell the same events, each with its own entries. -/
structure Account.AgreesBut
    (entries others : Fields) (account other : Account α) : Prop where
  /-- The outcome is the same, a failure with all its causes. -/
  sameOutcome : account.outcome = other.outcome
  /-- The events are the same ones in the same order. -/
  sameEvents : ∃ events : List Event, (∀ event ∈ events, event.IsOfReads) ∧
    account.entries = events.map (Event.told entries) ∧
    other.entries = events.map (Event.told others)

/-- Two reads ask for the same and conclude alike, each with its own entries. -/
inductive Read.AgreesBut (entries others : Fields) : Read β α -> Read β α -> Prop where
  | settled {account other : Account α} :
      account.AgreesBut entries others other ->
      AgreesBut entries others (.settled account) (.settled other)
  | awaiting {operation : Operation β} {conclude concludeToo : Except Failure β -> Account α} :
      operation.LogsPoolOnly ->
      (∀ outcome, (conclude outcome).AgreesBut entries others (concludeToo outcome)) ->
      AgreesBut entries others (.awaiting operation conclude) (.awaiting operation concludeToo)

/--
Two runs of a read are the same, but for the entries that each of them attaches to the events
of the read.
-/
structure Conduct.AgreesBut
    (entries others : Fields) (site : Site) (conduct other : Conduct α) : Prop where
  /-- The same requests are made with the same answers. -/
  sameExchanges : conduct.exchanges = other.exchanges
  /-- The context abandons both or none of them, for the same reason. -/
  sameAbandoned : conduct.abandoned? = other.abandoned?
  /-- The pool is left alike, and the same is in the journal. -/
  sameSite : conduct.site = other.site
  /-- The events in the journal are of the pool and have nothing attached to them. -/
  ofPool : site.GrowsByPool conduct.site
  /-- Both end or none of them does, and their accounts agree. -/
  accounts : Option.Rel (Account.AgreesBut entries others) conduct.account? other.account?

theorem Conduct.AgreesBut.sameOutcome
    {entries others : Fields}
    {site : Site}
    {conduct other : Conduct α}
    (agrees : conduct.AgreesBut entries others site other) :
    conduct.outcome? = other.outcome? := by
  have accounts := agrees.accounts
  unfold outcome?
  generalize conduct.account? = account at accounts ⊢
  generalize other.account? = otherAccount at accounts ⊢
  cases accounts with
  | none => rfl
  | some agrees => exact congrArg some agrees.sameOutcome

namespace Read.AgreesBut

variable {entries others : Fields} {read other : Read γ α}

theorem logsPoolOnly (agrees : read.AgreesBut entries others other) : read.LogsPoolOnly := by
  cases agrees with
  | settled _ => trivial
  | awaiting logs _ => exact logs

/-- Reads whose accounts are extended alike still agree. -/
theorem mapAccount
    {next nextToo : Account α -> Account β}
    (agrees : read.AgreesBut entries others other)
    (keeps : ∀ account otherAccount, account.AgreesBut entries others otherAccount ->
      (next account).AgreesBut entries others (nextToo otherAccount)) :
    (read.mapAccount next).AgreesBut entries others (other.mapAccount nextToo) := by
  cases agrees with
  | settled same => exact .settled (keeps _ _ same)
  | awaiting logs same => exact .awaiting logs fun outcome => keeps _ _ (same outcome)

/-- Reads that agree are carried out alike. -/
theorem conduct
    (agrees : read.AgreesBut entries others other)
    (context : Context)
    (course : Course)
    (site : Site) :
    (read.conduct context course site).AgreesBut entries others site
      (other.conduct context course site) := by
  have ofPool := agrees.logsPoolOnly.conduct context course site
  cases agrees with
  | settled same => exact ⟨rfl, rfl, rfl, ofPool, .some same⟩
  | @awaiting operation conclude concludeToo _ same =>
      cases fired : context.hasFired course.sent course.now with
      | true =>
          rw [conduct_of_fired fired] at ofPool ⊢
          rw [conduct_of_fired fired]
          exact ⟨rfl, rfl, rfl, ofPool, .some (same _)⟩
      | false =>
          rw [conduct_of_unfired fired] at ofPool ⊢
          rw [conduct_of_unfired fired]
          refine ⟨rfl, rfl, rfl, ofPool, ?_⟩
          simp only
          cases Supervision.outcome? (context.reason course.sentLater)
              ((Supervision.start operation site).after course.moments) with
          | none => exact .none
          | some outcome => exact .some (same outcome)

end Read.AgreesBut

/-- A read looks at the deadline and at the signal of its context, not at its observation. -/
theorem Read.conduct_observation
    (read : Read β α)
    (context : Context)
    (observation : Observation)
    (course : Course)
    (site : Site) :
    read.conduct { context with observation } course site = read.conduct context course site := by
  cases read <;> rfl

/-- Neither does the bound that a service sets. -/
theorem Service.boundedContext_observation
    (service : Service)
    (context : Context)
    (observation : Observation)
    (now : Instant) :
    service.boundedContext { context with observation } now =
      { service.boundedContext context now with observation } := by
  have sameDue (span : Duration) :
      ({ context with observation } : Context).isDueWithin now span =
        context.isDueWithin now span := rfl
  unfold boundedContext Context.bounded
  cases service.defaultTimeout with
  | none => rfl
  | some span =>
      simp only [sameDue]
      split <;> rfl

/-- What a log is told that attaches an observation. -/
def Observation.reporter (observation : Observation) (least : Level) : Reporter where
  observation := some observation
  least := least

/-- An event of a read is recorded under an observation that stands apart. -/
theorem Account.record_of_apart
    {observation : Observation}
    {event : Event}
    (apart : observation.StandsApart)
    (least : Level)
    (isOfReads : event.IsOfReads)
    (outcome : Except Failure α) :
    Account.record event (observation.reporter least) outcome =
      { entries := [event.told observation.entries], outcome } := by
  rcases Account.record_cases event (observation.reporter least) outcome with
    ⟨-, recorded⟩ | ⟨refused, -⟩
  · exact recorded
  · exact absurd (isOfReads.isAdmittedBy apart least) refused

/-- Accounts that go on alike from the same outcome agree. -/
theorem Account.AgreesBut.andThen
    {entries others : Fields}
    {account other : Account α}
    {next nextToo : Except Failure α -> Account β}
    (agrees : account.AgreesBut entries others other)
    (later : ∀ outcome, (next outcome).AgreesBut entries others (nextToo outcome)) :
    (account.andThen next).AgreesBut entries others (other.andThen nextToo) := by
  obtain ⟨sameOutcome, events, ofReads, told, toldToo⟩ := agrees
  obtain ⟨sameLater, laterEvents, laterOfReads, toldLater, toldLaterToo⟩ := later account.outcome
  rw [sameOutcome] at toldLaterToo sameLater
  refine ⟨?_, events ++ laterEvents, fun event present => ?_, ?_, ?_⟩
  · simp only [Account.andThen, sameOutcome, sameLater]
  · exact (List.mem_append.mp present).elim (ofReads event) (laterOfReads event)
  · simp only [Account.andThen, told, toldLater, List.map_append]
  · simp only [Account.andThen, toldToo, toldLaterToo, List.map_append]

/-! ## The reads -/

section Apart

variable {first second : Observation}

/-- Accounts that record nothing agree in their outcome. -/
theorem Account.AgreesBut.silent (outcome : Except Failure α) :
    ({ outcome } : Account α).AgreesBut first.entries second.entries { outcome } :=
  ⟨rfl, [], nofun, rfl, rfl⟩

variable (firstApart : first.StandsApart) (secondApart : second.StandsApart) (least : Level)

include firstApart secondApart

/-- An event of a read is recorded under both observations, and the outcome stays. -/
theorem Account.AgreesBut.record
    {event : Event}
    (isOfReads : event.IsOfReads)
    (outcome : Except Failure α) :
    (Account.record event (first.reporter least) outcome).AgreesBut first.entries second.entries
      (Account.record event (second.reporter least) outcome) := by
  rw [Account.record_of_apart firstApart least isOfReads,
    Account.record_of_apart secondApart least isOfReads]
  refine ⟨rfl, [event], fun found present => ?_, rfl, rfl⟩
  rw [List.mem_singleton.mp present]
  exact isOfReads

theorem Lookup.conclude_agrees (lookup : Lookup) (outcome : Except Failure Value) :
    (lookup.conclude (first.reporter least) outcome).AgreesBut first.entries second.entries
      (lookup.conclude (second.reporter least) outcome) := by
  cases outcome with
  | error failure =>
      simp only [conclude]
      split
      · exact .record firstApart secondApart least (.read _) _
      · exact .silent _
  | ok row =>
      simp only [conclude]
      cases Row.single row lookup.host lookup.details with
      | ok inst => exact .record firstApart secondApart least (.read _) _
      | error failure =>
          rcases failure with ⟨kind, message, cause⟩
          cases kind with
          | query fault errorId details =>
              cases fault with
              | internal => exact .record firstApart secondApart least (.read _) _
              | notFound => exact .record firstApart secondApart least (.read _) _
              | _ => exact .silent _
          | _ => exact .silent _

namespace Repository

variable (repository : Repository)

theorem rejected_agrees (lookup : String) (failure : Failure) :
    (rejected lookup (first.reporter least) failure : Account α).AgreesBut
      first.entries second.entries (rejected lookup (second.reporter least) failure) := by
  rcases failure with ⟨kind, message, cause⟩
  cases kind with
  | query fault errorId details =>
      cases fault with
      | invalidArgument => exact .record firstApart secondApart least (.read _) _
      | _ => exact .silent _
  | _ => exact .silent _

/-- Reads agree that agree once their statement was compiled. -/
theorem compileThen_agrees
    {next nextToo : Statement -> Read β α}
    (lookup : String)
    (draft : Except Failure Draft)
    (agrees : ∀ statement,
      (next statement).AgreesBut first.entries second.entries (nextToo statement)) :
    (repository.compileThen lookup (first.reporter least) draft next).AgreesBut
      first.entries second.entries
      (repository.compileThen lookup (second.reporter least) draft nextToo) := by
  cases draft with
  | error failure => exact .settled (.silent _)
  | ok draft =>
      simp only [compileThen]
      cases draft.compile repository.schema with
      | error failure => exact .settled (rejected_agrees firstApart secondApart least lookup failure)
      | ok statement => exact agrees statement

theorem lookUp_agrees (lookup : Lookup) (draft : Except Failure Draft) :
    (repository.lookUp (first.reporter least) lookup draft).AgreesBut first.entries second.entries
      (repository.lookUp (second.reporter least) lookup draft) :=
  compileThen_agrees firstApart secondApart least repository lookup.name draft fun statement =>
    .awaiting (repository.executor.fetchRow_logsPoolOnly statement)
      (lookup.conclude_agrees firstApart secondApart least)

theorem concludeSearch_agrees (outcome : Except Failure Page) :
    (concludeSearch (first.reporter least) outcome).AgreesBut first.entries second.entries
      (concludeSearch (second.reporter least) outcome) := by
  cases outcome with
  | ok page => exact .record firstApart secondApart least (.read _) _
  | error failure =>
      simp only [concludeSearch]
      split
      · exact .record firstApart secondApart least (.read _) _
      · rcases failure with ⟨kind, message, cause⟩
        cases kind with
        | query fault errorId details =>
            cases fault with
            | internal => exact .record firstApart secondApart least (.read _) _
            | _ => exact .silent _
        | _ => exact .silent _

theorem search_agrees (search : Search) :
    (repository.search (first.reporter least) search).AgreesBut first.entries second.entries
      (repository.search (second.reporter least) search) :=
  compileThen_agrees firstApart secondApart least repository searchName (searchDraft search)
    fun statement =>
      .awaiting (repository.searchOperation_logsPoolOnly statement)
        (concludeSearch_agrees firstApart secondApart least)

end Repository

namespace Service

variable {account other : Account Instance}
  (agrees : account.AgreesBut first.entries second.entries other)

include agrees

theorem accountResolved_agrees (lookup : String) :
    (accountResolved lookup (first.reporter least) account).AgreesBut
      first.entries second.entries (accountResolved lookup (second.reporter least) other) := by
  refine agrees.andThen fun outcome => ?_
  cases outcome with
  | ok inst => exact .record firstApart secondApart least (.service _) _
  | error failure =>
      simp only
      cases failure.query? with
      | some query => exact .record firstApart secondApart least (.service _) _
      | none => exact .silent _

theorem accountLanguage_agrees (current : CurrentInstance) :
    (accountLanguage (first.reporter least) current account).AgreesBut
      first.entries second.entries (accountLanguage (second.reporter least) current other) := by
  refine agrees.andThen fun outcome => ?_
  cases outcome with
  | ok inst => exact .silent _
  | error failure =>
      simp only
      cases failure.query? with
      | some query => exact .record firstApart secondApart least (.service _) _
      | none => exact .silent _

omit agrees in
theorem accountSearched_agrees
    {account other : Account Page}
    (agrees : account.AgreesBut first.entries second.entries other) :
    (accountSearched (first.reporter least) account).AgreesBut first.entries second.entries
      (accountSearched (second.reporter least) other) := by
  refine agrees.andThen fun outcome => ?_
  cases outcome with
  | ok page => exact .record firstApart secondApart least (.service _) _
  | error failure => exact .silent _

end Service
end Apart

/-- What comes of a call of the service: a read under the context as the service bounds it. -/
def Service.carryOut
    (service : Service) (least : Level) (context : Context) (course : Course) (site : Site)
    (read : Reporter -> Read β α) : Conduct α :=
  (read (context.observation.reporter least)).conduct
    (service.boundedContext context course.now) course site

/-- Calls agree whose reads do. -/
theorem Service.carryOut_agrees
    {first second : Observation}
    {least : Level}
    {read : Reporter -> Read β α}
    (agrees : (read (first.reporter least)).AgreesBut first.entries second.entries
      (read (second.reporter least)))
    (service : Service)
    (context : Context)
    (course : Course)
    (site : Site) :
    (service.carryOut least { context with observation := first } course site read).AgreesBut
      first.entries second.entries site
      (service.carryOut least { context with observation := second } course site read) := by
  unfold carryOut
  rw [boundedContext_observation service context first,
    boundedContext_observation service context second, Read.conduct_observation,
    Read.conduct_observation]
  exact agrees.conduct _ course site

/--
Whatever the driver answers and whenever the context fires, a call of the service under one
observation and the same call under another one make the same exchanges, end in the same
outcome and report the same events.  The events of the reads and of the service carry the
entries of the observation after their own fields, and those of the pool do not.
-/
theorem observation_never_decides
    {first second : Observation}
    (firstApart : first.StandsApart)
    (secondApart : second.StandsApart)
    (service : Service)
    (least : Level)
    (context : Context)
    (course : Course)
    (site : Site) :
    let under (observation : Observation) := { context with observation }
    (∀ current : CurrentInstance,
      let call (reporter : Reporter) := service.currentInstance reporter current
      (service.carryOut least (under first) course site call).AgreesBut
        first.entries second.entries site
        (service.carryOut least (under second) course site call)) ∧
    (∀ host : String,
      let call (reporter : Reporter) := service.instanceByHost reporter host
      (service.carryOut least (under first) course site call).AgreesBut
        first.entries second.entries site
        (service.carryOut least (under second) course site call)) ∧
    (∀ search : Search,
      let call (reporter : Reporter) := service.searchInstances reporter search
      (service.carryOut least (under first) course site call).AgreesBut
        first.entries second.entries site
        (service.carryOut least (under second) course site call)) ∧
    (∀ current : CurrentInstance,
      let call (reporter : Reporter) := service.defaultLanguage reporter current
      (service.carryOut least (under first) course site call).AgreesBut
        first.entries second.entries site
        (service.carryOut least (under second) course site call)) := by
  have looked (lookup : Lookup) (draft : Except Failure Draft) :=
    service.repository.lookUp_agrees firstApart secondApart least lookup draft
  have searched (search : Search) :=
    service.repository.search_agrees firstApart secondApart least search
  refine ⟨fun current => ?current, fun host => ?host, fun search => ?search,
    fun current => ?language⟩
  case current =>
    refine Service.carryOut_agrees ((looked _ _).mapAccount fun _ _ agrees => ?_) ..
    exact Service.accountResolved_agrees firstApart secondApart least agrees "current"
  case host =>
    refine Service.carryOut_agrees ((looked _ _).mapAccount fun _ _ agrees => ?_) ..
    exact Service.accountResolved_agrees firstApart secondApart least agrees "host"
  case search =>
    refine Service.carryOut_agrees ((searched search).mapAccount fun _ _ agrees => ?_) ..
    exact Service.accountSearched_agrees firstApart secondApart least agrees
  case language =>
    refine Service.carryOut_agrees ((looked _ _).mapAccount fun _ _ agrees => ?_) ..
    exact Service.accountLanguage_agrees firstApart secondApart least agrees current

/-- Loading an instance that the store does not have. -/
def Service.missing (observation : Observation) : Conduct Instance :=
  ({} : Service).carryOut .debug { observation, signal := 0 } (.answeredBy (.granting .null) 1) {}
    fun reporter => ({} : Service).currentInstance reporter absent

/-- What request handling attaches to the events of a request. -/
def Observation.ofRequest : Observation where
  requestId := some "r-1"
  extra := [("tier", .int 1)]

/-- An absent instance is not found under either observation. -/
theorem observation_never_decides_ofRequest :
    Observation.ofRequest.StandsApart ∧ ({} : Observation).StandsApart ∧
    (Service.missing .ofRequest).AgreesBut
      [("request_id", .text "r-1"), ("tier", .int 1)] [] {} (Service.missing {}) ∧
    (Service.missing {}).outcome? =
      some (.error (.notFound [("lookup", .text "instance_by_id"), ("key", .text "acme")])) := by
  have firstApart : Observation.ofRequest.StandsApart := by
    unfold Observation.StandsApart
    decide
  have secondApart : ({} : Observation).StandsApart := nofun
  have agrees := observation_never_decides firstApart secondApart {} .debug { signal := 0 }
    (.answeredBy (.granting .null) 1) {}
  exact ⟨firstApart, secondApart, agrees.1 Service.absent, rfl⟩

/-- An observation that names the method of a request. -/
def Observation.ofMethod : Observation where
  extra := [("method_name", .text "GET")]

/--
The name of the method is no key of an event, and none that stands on a line of the log.  An
absent instance is not found without it, but with it the call fails for giving it twice.
-/
theorem observation_decides_ofMethod :
    (∀ entry ∈ Observation.ofMethod.entries,
      entry.1 ∉ ReadEvent.ownKeys ∧ entry.1 ∉ ServiceEvent.ownKeys ∧
      entry.1 ∉ ["event", "self", "level", "timestamp", "stack", "stack_info", "exc_info",
        "exception"]) ∧
    ({} : Observation).entries = [] ∧
    (Service.missing {}).outcome? =
      some (.error (.notFound [("lookup", .text "instance_by_id"), ("key", .text "acme")])) ∧
    (Service.missing .ofMethod).outcome? = some (.error (.duplicate "method_name")) :=
  ⟨by decide, rfl, rfl, rfl⟩

end InstanceDirectory
