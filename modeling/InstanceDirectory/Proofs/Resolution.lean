import InstanceDirectory.Proofs.Conduct
import InstanceDirectory.Proofs.Decoding
import InstanceDirectory.Proofs.Lending
import InstanceDirectory.Proofs.Recording
import InstanceDirectory.Repository

/-!
# Resolving one instance

Both lookups of one instance end in the instance, in a failed lookup or in an internal
failure, and which of the three it is follows from the exchanges with the driver, from the
row and from whether the context fired.  An absent row is the only way to a failed lookup:
what was cancelled, timed out or failed is never reported as absent.
-/

namespace InstanceDirectory

open Operation

namespace Lookup

/-- The details of a lookup repeat nothing that a failure has anyway. -/
theorem repeated?_details (lookup : Lookup) : Failure.repeated? lookup.details = none := rfl

/-- The internal failure of a lookup. -/
theorem internal_details (lookup : Lookup) (message errorId : String) (cause : Failure) :
    Failure.internal message errorId lookup.details cause =
      { kind := .query .internal errorId lookup.details, message, cause := some cause } := by
  simp only [Failure.internal, Failure.query, repeated?_details]

/-- The failed lookup. -/
theorem notFound_details (lookup : Lookup) :
    Failure.notFound lookup.details =
      { kind := .query .notFound "QUERY-n0wng" lookup.details
        message := "Errors.Instance.NotFound" } := by
  simp only [Failure.notFound, Failure.query, repeated?_details]

/-- The internal failure of a lookup is not a failed lookup. -/
theorem internal_ne_notFound (lookup : Lookup) (message errorId : String) (cause : Failure) :
    Failure.internal message errorId lookup.details cause ≠ .notFound lookup.details := by
  rw [internal_details, notFound_details]
  intro same
  cases same

variable {reporter : Reporter}

/-- The outcome of a lookup whose operation failed. -/
theorem outcome_conclude_error
    (unobtrusive : reporter.IsUnobtrusive)
    (lookup : Lookup)
    {failure : Failure}
    (execution : failure.isExecution) :
    (lookup.conclude reporter (.error failure)).outcome =
      .error (.internal "Errors.Internal" "QUERY-d9nw" lookup.details failure) := by
  simp only [conclude, execution, if_true, failed]
  exact Account.outcome_record unobtrusive _ _

/-- The outcome of a lookup whose operation answered a row. -/
theorem outcome_conclude_ok
    (unobtrusive : reporter.IsUnobtrusive)
    (lookup : Lookup)
    (row : Value) :
    (lookup.conclude reporter (.ok row)).outcome = Row.single row lookup.host lookup.details := by
  simp only [conclude]
  cases Row.single row lookup.host lookup.details with
  | ok inst => exact Account.outcome_record unobtrusive _ _
  | error failure =>
      simp only
      split
      · exact Account.outcome_record unobtrusive _ _
      · exact Account.outcome_record unobtrusive _ _
      · rfl

/-- A lookup whose operation failed returns nothing, whatever is recorded. -/
theorem outcome_conclude_error_ne_ok
    (lookup : Lookup)
    (failure : Failure)
    (inst : Instance) :
    (lookup.conclude reporter (.error failure)).outcome ≠ .ok inst := by
  intro returned
  unfold conclude at returned
  split at returned
  · split at returned
    · cases Account.eq_ok_of_record returned
    · cases returned
  · contradiction

/-- A lookup whose operation answered a row returns only what the row decodes to. -/
theorem single_of_outcome_conclude
    {lookup : Lookup}
    {row : Value}
    {inst : Instance}
    (returned : (lookup.conclude reporter (.ok row)).outcome = .ok inst) :
    Row.single row lookup.host lookup.details = .ok inst := by
  unfold conclude at returned
  simp only at returned
  cases single : Row.single row lookup.host lookup.details with
  | ok other =>
      rw [single] at returned
      exact Account.eq_ok_of_record returned
  | error failure =>
      rw [single] at returned
      simp only at returned
      split at returned
      · cases Account.eq_ok_of_record returned
      · cases Account.eq_ok_of_record returned
      · cases returned

end Lookup

/-- A row of a statement is a list, and an absent one is null. -/
def Value.IsRow (value : Value) : Prop :=
  value = .null ∨ ∃ items, value = .list items

/-- A row is absent, decodes, or does not fit the projection. -/
theorem Row.single_cases
    {row : Value}
    (isRow : row.IsRow)
    (host : String)
    (details : Fields) :
    (row = .null ∧ Row.single row host details = .error (.notFound details)) ∨
    (∃ inst, Row.decode row host = .ok inst ∧ Row.single row host details = .ok inst) ∨
    (∃ failure, Row.decode row host = .error failure ∧ failure.isDecode ∧
      Row.single row host details =
        .error (.internal "Errors.Internal" "QUERY-d9nw" details failure)) := by
  rcases isRow with rfl | ⟨items, rfl⟩
  · exact .inl ⟨rfl, rfl⟩
  · refine .inr ?_
    cases decoded : decode (.list items) host with
    | ok inst =>
        refine .inl ⟨inst, rfl, ?_⟩
        simp only [single, decoded]
        rfl
    | error failure =>
        have isDecode := decode_list_failsByDecoding items host failure decoded
        refine .inr ⟨failure, rfl, isDecode, ?_⟩
        simp only [single, decoded]
        change (Except.error (report _ _ _ failure) : Except Failure Instance) = _
        rw [report, if_pos isDecode]

/-- The ways to ask for one instance. -/
inductive Resolution where
  /-- The instance that a request was resolved to. -/
  | ofRequest (current : CurrentInstance)
  /-- The instance bound to a host. -/
  | ofHost (host : String)

namespace Resolution

/-- The lookup of a resolution. -/
def lookup : Resolution -> Lookup
  | ofRequest current =>
      { name := "instance_by_id", key := current.instanceId, host := current.requestedDomain }
  | ofHost host => { name := "instance_by_host", key := .text (stripPort host), host }

/-- The draft of the statement of a resolution. -/
def draft : Resolution -> Except Failure Draft
  | ofRequest current => Repository.currentDraft current
  | ofHost host => Repository.hostDraft (stripPort host)

/-- The read of a resolution. -/
def read (repository : Repository) (reporter : Reporter) : Resolution -> Read Value Instance
  | ofRequest current => repository.current reporter current
  | ofHost host => repository.byHost reporter host

end Resolution

/-- Comparing for equality can always be written and names its column. -/
theorem Clause.equality_cases (column : Column) (value : Value) :
    (∃ pieces, (equality column value).conjunctPieces = .ok pieces) ∧
      (equality column value).column? = some column := by
  cases value <;> exact ⟨⟨_, rfl⟩, rfl⟩

/-- A select narrowed by one equality over its own tables compiles. -/
theorem Draft.exists_statement_of_equals
    (schema : Schema)
    (selection : Selection)
    (column : Column)
    (value : Value)
    (inside : column.table ∈ selection.tables) :
    ∃ statement,
      (({ selection } : Draft).filter [.equals column value] >>= Draft.compile schema) =
        .ok statement := by
  obtain ⟨⟨conjunct, written⟩, about⟩ := Clause.equality_cases column value
  have narrowed : ({ selection } : Draft).filter [.equals column value] =
      .ok { selection, conditions := [Clause.equality column value] } := rfl
  have insideSource : Draft.readsOutsideSource
      { selection, conditions := [Clause.equality column value] } = false := by
    simp [readsOutsideSource, usedColumns, sortColumns, about, inside]
  have pieces : ∃ pieces, Draft.pieces
      { selection, conditions := [Clause.equality column value] } = .ok pieces := by
    simp only [Draft.pieces, conditionPieces, List.mapM_cons, List.mapM_nil, written]
    exact ⟨_, rfl⟩
  obtain ⟨pieces, allPieces⟩ := pieces
  rw [narrowed]
  refine ⟨{ text := Piece.text schema pieces, arguments := Piece.arguments pieces }, ?_⟩
  show Draft.compile schema _ = _
  simp only [compile, insideSource, allPieces, Bool.false_eq_true, if_false]
  rfl

namespace Resolution

/-- Every resolution has a statement. -/
theorem exists_statement (resolution : Resolution) (schema : Schema) :
    ∃ statement, (resolution.draft >>= Draft.compile schema) = .ok statement := by
  cases resolution with
  | ofRequest current =>
      exact Draft.exists_statement_of_equals schema .single .id current.instanceId (by decide)
  | ofHost host =>
      exact Draft.exists_statement_of_equals schema .byDomain .boundDomain
        (.text (stripPort host)) (by decide)

/-- A resolution is read by looking it up. -/
theorem read_eq_lookUp
    (resolution : Resolution)
    (repository : Repository)
    (reporter : Reporter) :
    resolution.read repository reporter =
      repository.lookUp reporter resolution.lookup resolution.draft := by
  cases resolution <;> rfl

/-- A resolution awaits its statement. -/
theorem read_eq_awaiting
    {resolution : Resolution}
    {repository : Repository}
    {statement : Statement}
    (compiled : (resolution.draft >>= Draft.compile repository.schema) = .ok statement)
    (reporter : Reporter) :
    resolution.read repository reporter =
      .awaiting (repository.executor.fetchRow statement)
        (resolution.lookup.conclude reporter) := by
  rw [read_eq_lookUp, Repository.lookUp]
  cases drafted : resolution.draft with
  | error failure =>
      rw [drafted] at compiled
      cases compiled
  | ok draft =>
      rw [drafted] at compiled
      have compiles : draft.compile repository.schema = .ok statement := compiled
      simp only [Repository.compileThen, compiles]

end Resolution

namespace Exchange

/--
A driver fails to lend, to take back and to read a row with failures of its own, and a row
that it reads is a list or absent.
-/
def IsDriverLike : Exchange -> Prop
  | ⟨.acquire, .error failure⟩ => failure.isDriver
  | ⟨.release _, .error failure⟩ => failure.isDriver
  | ⟨.fetchRow _ _, .error failure⟩ => failure.isDriver
  | ⟨.fetchRow _ _, .ok row⟩ => row.IsRow
  | _ => True

/-- A row was read over a borrowed connection, and nothing failed. -/
def Fetched (statement : Statement) (exchanges : List Exchange) (row : Value) : Prop :=
  ∃ connection, exchanges =
    [⟨.acquire, .ok connection⟩, ⟨.fetchRow (some connection) statement, .ok row⟩,
      ⟨.release connection, .ok ()⟩]

/-- The row that an exchange has read. -/
def row? : Exchange -> Option Value
  | ⟨.fetchRow _ _, .ok row⟩ => some row
  | _ => none

/-- The failure that an exchange has met. -/
def failure? (exchange : Exchange) : Option Failure :=
  match exchange.answer with
  | .ok _ => none
  | .error failure => some failure

namespace Fetched

variable {statement : Statement} {exchanges : List Exchange} {row other : Value}

/-- At most one row is read. -/
theorem unique
    (first : Fetched statement exchanges row)
    (second : Fetched statement exchanges other) :
    row = other := by
  obtain ⟨connection, rfl⟩ := first
  obtain ⟨_, same⟩ := second
  have rows : [row] = [other] := congrArg (List.filterMap row?) same
  cases rows
  rfl

/-- Nothing has failed. -/
theorem failures_eq_nil (fetched : Fetched statement exchanges row) :
    exchanges.filterMap failure? = [] := by
  obtain ⟨connection, rfl⟩ := fetched
  rfl

end Fetched
end Exchange

/-- All requests are answered as a driver does. -/
def Answerer.IsDriverLike (answerer : Answerer) : Prop :=
  ∀ request, Exchange.IsDriverLike ⟨request, answerer request⟩

theorem Pool.isStore_surface {failure : Failure} (isDriver : failure.isDriver) (message : String) :
    (surface message failure).isStore := by
  rw [surface, if_pos isDriver]
  rfl

theorem Statement.isStore_report
    {failure : Failure}
    (isDriver : failure.isDriver)
    (statement : Statement)
    (message : String) :
    (statement.report message failure).isStore := by
  rw [report, if_pos isDriver]
  rfl

/--
Over a driver that behaves like one, reading a row ends in the row that was fetched, or in a
failure of the store when none was.
-/
theorem Executor.outcome_fetchRowPooled
    {statement : Statement}
    {isOpen left : Bool}
    {acts : List Act}
    {outcome : Except Failure Value}
    (ends : Ends isOpen (fetchRowPooled statement) acts outcome left)
    (driverLike : ∀ exchange ∈ Act.exchanges acts, exchange.IsDriverLike) :
    (∃ row, outcome = .ok row ∧ row.IsRow ∧
      Exchange.Fetched statement (Act.exchanges acts) row) ∨
    ∃ failure, outcome = .error failure ∧ failure.isStore ∧
      ∀ row, ¬ Exchange.Fetched statement (Act.exchanges acts) row := by
  cases isOpen with
  | false =>
      obtain ⟨rfl, rfl, -⟩ := ends_fetchRowPooled_closed ends
      refine .inr ⟨Pool.notOpen, rfl, rfl, fun row fetched => ?_⟩
      obtain ⟨connection, word⟩ := fetched
      exact List.cons_ne_nil _ _ word.symm
  | true =>
      obtain ⟨-, ⟨failure, rfl, rfl⟩ | ⟨connection, fetched, returned, rfl, rfl⟩⟩ :=
        ends_fetchRowPooled ends
      · have isDriver : failure.isDriver := driverLike ⟨.acquire, .error failure⟩ (by simp)
        refine .inr ⟨_, rfl, Pool.isStore_surface isDriver _, fun row fetched => ?_⟩
        exact List.cons_ne_nil _ _ fetched.failures_eq_nil
      · rcases returned with failure | _
        · have isDriver : failure.isDriver :=
            driverLike ⟨.release connection, .error failure⟩ (by simp)
          refine .inr ⟨_, rfl, Pool.isStore_surface isDriver _, fun row fetched => ?_⟩
          have failures := fetched.failures_eq_nil
          simp [Exchange.failure?] at failures
        · rcases fetched with failure | row
          · have isDriver : failure.isDriver :=
              driverLike ⟨.fetchRow (some connection) statement, .error failure⟩ (by simp)
            refine .inr ⟨_, rfl, statement.isStore_report isDriver _, fun row fetched => ?_⟩
            have failures := fetched.failures_eq_nil
            simp [Exchange.failure?] at failures
          · have isRow : row.IsRow :=
              driverLike ⟨.fetchRow (some connection) statement, .ok row⟩ (by simp)
            exact .inl ⟨row, rfl, isRow, connection, by simp⟩

/-- The reasons of a context end a read as failures of its execution. -/
theorem Conduct.IsReason.isExecution {failure : Failure} (isReason : IsReason failure) :
    failure.isExecution := by
  rcases isReason with rfl | rfl <;> rfl

theorem Failure.isExecution_of_isStore {failure : Failure} (ofStore : failure.isStore) :
    failure.isExecution := by
  rcases failure with ⟨kind, message, cause⟩
  cases kind <;> first | rfl | cases ofStore

namespace Resolution

/-- Why a resolution ends in an internal failure: its context, the store, or its row. -/
inductive Explains
    (statement : Statement) (host : String) (conduct : Conduct Instance) (cause : Failure) :
    Prop where
  | context : conduct.abandoned? = some cause -> Conduct.IsReason cause ->
      Explains statement host conduct cause
  | store : conduct.abandoned? = none -> cause.isStore ->
      (∀ row, ¬ Exchange.Fetched statement conduct.exchanges row) ->
      Explains statement host conduct cause
  | row (row : Value) : conduct.abandoned? = none ->
      Exchange.Fetched statement conduct.exchanges row -> row ≠ .null ->
      Row.decode row host = .error cause -> cause.isDecode ->
      Explains statement host conduct cause

namespace Explains

variable {statement : Statement} {host : String} {conduct : Conduct Instance} {cause : Failure}

/-- What ended in an internal failure has no row that decodes. -/
theorem not_decoded
    (explains : Explains statement host conduct cause)
    (inst : Instance) :
    ¬ (conduct.abandoned? = none ∧ ∃ row, Exchange.Fetched statement conduct.exchanges row ∧
      Row.decode row host = .ok inst) := by
  rintro ⟨unabandoned, row, fetched, decoded⟩
  cases explains with
  | context abandoned isReason => exact absurd (abandoned.symm.trans unabandoned) nofun
  | store _ _ notFetched => exact notFetched row fetched
  | row other _ otherFetched _ failed _ =>
      rw [fetched.unique otherFetched, failed] at decoded
      cases decoded

/-- What ended in an internal failure has no absent row. -/
theorem not_missed (explains : Explains statement host conduct cause) :
    ¬ (conduct.abandoned? = none ∧
      Exchange.Fetched statement conduct.exchanges .null) := by
  rintro ⟨unabandoned, fetched⟩
  cases explains with
  | context abandoned isReason => exact absurd (abandoned.symm.trans unabandoned) nofun
  | store _ _ notFetched => exact notFetched .null fetched
  | row other _ otherFetched present _ _ => exact present (otherFetched.unique fetched)

end Explains

/-- The account of a resolution agrees with what happened during it. -/
structure Settles
    (resolution : Resolution) (statement : Statement) (conduct : Conduct Instance)
    (account : Account Instance) : Prop where
  /-- An instance is returned exactly when its row was fetched and decodes. -/
  returned : ∀ inst, account.outcome = .ok inst ↔
    conduct.abandoned? = none ∧ ∃ row, Exchange.Fetched statement conduct.exchanges row ∧
      Row.decode row resolution.lookup.host = .ok inst
  /-- The lookup failed exactly when an absent row was fetched. -/
  missed : account.outcome = .error (.notFound resolution.lookup.details) ↔
    conduct.abandoned? = none ∧ Exchange.Fetched statement conduct.exchanges .null
  /-- Every other outcome is an internal failure with its cause. -/
  otherwise : (∃ inst, account.outcome = .ok inst) ∨
    account.outcome = .error (.notFound resolution.lookup.details) ∨
    ∃ cause, account.outcome =
        .error (.internal "Errors.Internal" "QUERY-d9nw" resolution.lookup.details cause) ∧
      Explains statement resolution.lookup.host conduct cause

namespace Settles

variable {resolution : Resolution} {statement : Statement} {conduct : Conduct Instance}
  {account : Account Instance}

theorem of_explains
    {cause : Failure}
    (explains : Explains statement resolution.lookup.host conduct cause)
    (internal : account.outcome =
      .error (.internal "Errors.Internal" "QUERY-d9nw" resolution.lookup.details cause)) :
    resolution.Settles statement conduct account where
  returned inst := by
    refine iff_of_false ?_ (explains.not_decoded inst)
    rw [internal]
    exact nofun
  missed := by
    refine iff_of_false ?_ explains.not_missed
    rw [internal]
    exact fun same => resolution.lookup.internal_ne_notFound _ _ _ (Except.error.inj same)
  otherwise := .inr (.inr ⟨cause, internal, explains⟩)

theorem of_missed
    (unabandoned : conduct.abandoned? = none)
    (fetched : Exchange.Fetched statement conduct.exchanges .null)
    (missed : account.outcome = .error (.notFound resolution.lookup.details)) :
    resolution.Settles statement conduct account where
  returned inst := by
    refine iff_of_false (by rw [missed]; exact nofun) ?_
    rintro ⟨-, row, alsoFetched, decoded⟩
    rw [← fetched.unique alsoFetched] at decoded
    exact Row.decode_null _ inst decoded
  missed := iff_of_true missed ⟨unabandoned, fetched⟩
  otherwise := .inr (.inl missed)

theorem of_returned
    {row : Value}
    {inst : Instance}
    (unabandoned : conduct.abandoned? = none)
    (fetched : Exchange.Fetched statement conduct.exchanges row)
    (decoded : Row.decode row resolution.lookup.host = .ok inst)
    (returned : account.outcome = .ok inst) :
    resolution.Settles statement conduct account where
  returned other := by
    rw [returned]
    constructor
    · rintro ⟨⟩
      exact ⟨unabandoned, row, fetched, decoded⟩
    · rintro ⟨-, row, alsoFetched, alsoDecoded⟩
      rw [← fetched.unique alsoFetched, decoded] at alsoDecoded
      exact alsoDecoded
  missed := by
    refine iff_of_false (by rw [returned]; exact nofun) ?_
    rintro ⟨-, alsoFetched⟩
    rw [fetched.unique alsoFetched] at decoded
    exact Row.decode_null _ inst decoded
  otherwise := .inl ⟨inst, returned⟩

end Settles

/--
A resolution over the pool agrees with what happened: an instance is returned exactly when
the context has not fired and a row was fetched that decodes, the lookup fails exactly when
an absent row was fetched, and everything else is an internal failure caused by the context,
the store or the row.  The resolution has ended once three requests were answered.
-/
theorem settles
    {resolution : Resolution}
    {repository : Repository}
    {prefetch : Int}
    {reporter : Reporter}
    {context : Context}
    {course : Course}
    {site : Site}
    (pooled : repository.executor = .pooled prefetch)
    (unobtrusive : reporter.IsUnobtrusive)
    (driverLike : ∀ answerer, .answered answerer ∈ course.moments -> answerer.IsDriverLike) :
    ∃ statement, (resolution.draft >>= Draft.compile repository.schema) = .ok statement ∧
    let conduct := (resolution.read repository reporter).conduct context course site
    (3 ≤ Moment.answers course.moments -> ∃ account, conduct.account? = some account) ∧
    ∀ account, conduct.account? = some account ->
      resolution.Settles statement conduct account := by
  obtain ⟨statement, compiled⟩ := resolution.exists_statement repository.schema
  have awaits : resolution.read repository reporter =
      .awaiting (Executor.fetchRowPooled statement) (resolution.lookup.conclude reporter) := by
    rw [read_eq_awaiting compiled, pooled]
    rfl
  refine ⟨statement, compiled, ?_⟩
  rw [awaits]
  intro conduct
  refine ⟨Read.exists_account (Executor.fetchRowPooled_endsWithin statement),
    fun account ended => ?_⟩
  rcases Read.account_cases ended with
    ⟨reason, abandoned, isReason, rfl⟩ |
    ⟨unabandoned, acts, outcome, ends, exchanged, rfl, answered⟩
  · exact .of_explains (.context abandoned isReason)
      (Lookup.outcome_conclude_error unobtrusive _ isReason.isExecution)
  · have answeredAsDriver : ∀ exchange ∈ Act.exchanges acts, exchange.IsDriverLike := by
      rw [exchanged]
      rintro ⟨request, answer⟩ happened
      obtain ⟨answerer, gives, same⟩ := answered _ happened
      obtain rfl : answer = answerer request := same
      exact driverLike answerer gives request
    rcases Executor.outcome_fetchRowPooled ends answeredAsDriver with
      ⟨row, rfl, isRow, fetched⟩ | ⟨failure, rfl, ofStore, notFetched⟩
    · rw [exchanged] at fetched
      have concluded := Lookup.outcome_conclude_ok unobtrusive resolution.lookup row
      rcases Row.single_cases isRow resolution.lookup.host resolution.lookup.details with
        ⟨rfl, single⟩ | ⟨inst, decoded, single⟩ | ⟨failure, failed, isDecode, single⟩
      · exact .of_missed unabandoned fetched (concluded.trans single)
      · exact .of_returned unabandoned fetched decoded (concluded.trans single)
      · have present : row ≠ .null := by
          rintro rfl
          cases single
        exact .of_explains (.row row unabandoned fetched present failed isDecode)
          (concluded.trans single)
    · rw [exchanged] at notFetched
      exact .of_explains (.store unabandoned ofStore notFetched)
        (Lookup.outcome_conclude_error unobtrusive _ (Failure.isExecution_of_isStore ofStore))

theorem granting_isDriverLike {row : Value} (isRow : row.IsRow) :
    (Answerer.granting row).IsDriverLike := by
  intro request
  cases request with
  | fetchRow connection statement => exact isRow
  | _ => trivial

/-- A reporter with an observation. -/
def observing : Reporter where
  observation := some { requestId := some "r" }

/-- A host without a row is a failed lookup. -/
theorem notFound_of_null :
    ∃ account,
      (((ofHost "acme:80").read { executor := .pooled 100 } observing).conduct { signal := 0 }
        (.answeredBy (.granting .null) 3) { isOpen := true }).account? = some account ∧
      account.outcome = .error (.notFound (ofHost "acme:80").lookup.details) := by
  have unobtrusive : observing.IsUnobtrusive := by
    intro entry present
    cases List.mem_singleton.mp present
    decide
  have driverLike : ∀ answerer,
      .answered answerer ∈ (Course.answeredBy (.granting .null) 3).moments ->
      answerer.IsDriverLike := by
    intro answerer answered
    cases List.eq_of_mem_replicate answered
    exact granting_isDriverLike (.inl rfl)
  obtain ⟨statement, compiled, ends, settled⟩ :=
    @settles (ofHost "acme:80") { executor := .pooled 100 } 100 observing { signal := 0 }
      (.answeredBy (.granting .null) 3) { isOpen := true } rfl unobtrusive driverLike
  obtain ⟨account, ended⟩ := ends (by decide)
  cases compiled
  exact ⟨account, ended, (settled account ended).missed.mpr ⟨rfl, 1, rfl⟩⟩

end Resolution
end InstanceDirectory
