import InstanceDirectory.Proofs.Resolution

/-!
# Where query failures come from

A query is rejected before anything is asked of the store.  An operation never rejects one
by itself: when it ends in a query failure, a scan has reported it, or some exchange was
answered with that very failure.  The relation below is kept by every way of putting
operations together, so it holds of all operations of the reads.
-/

namespace InstanceDirectory

open Operation

namespace Failure

/-- The failure rejects a query. -/
def isRejection (failure : Failure) : Bool :=
  match failure.kind with
  | .query .invalidArgument _ _ => true
  | _ => false

/-- A query failure rejects a query only if it is of that kind. -/
theorem isRejection_query
    {fault : QueryFault}
    (other : fault ≠ .invalidArgument)
    (message errorId : String)
    (details : Fields)
    (cause : Option Failure) :
    (query fault message errorId details cause).isRejection = false := by
  unfold query
  split
  · rfl
  · cases fault with
    | invalidArgument => exact absurd rfl other
    | _ => rfl

theorem isRejection_internal
    (message errorId : String)
    (details : Fields)
    (cause : Failure) :
    (internal message errorId details cause).isRejection = false :=
  isRejection_query (by decide) _ _ _ _

end Failure

/-- A rejection is a query failure. -/
theorem Failure.query?_of_isRejection {failure : Failure} (isRejection : failure.isRejection) :
    failure.query?.isSome := by
  rcases failure with ⟨kind, message, cause⟩
  cases kind with
  | query fault errorId details => rfl
  | _ => cases isRejection

/-- What does not fail as a query fails as none. -/
theorem NeverQueries.query?_isSome
    {computation : Except Failure α}
    {failure : Failure}
    (neverQueries : NeverQueries computation)
    (failed : computation = .error failure) :
    failure.query?.isSome = false := by
  rw [neverQueries failure failed]
  rfl

/-- The answer of a lookup fails as a query for an absent row, or for one that does not decode. -/
theorem Row.single_eq_error_query
    {row : Value}
    {host : String}
    {details : Fields}
    {failure : Failure}
    (failed : single row host details = .error failure)
    (isQuery : failure.query?.isSome) :
    failure = .notFound details ∨
      ∃ cause, failure = .internal "Errors.Internal" "QUERY-d9nw" details cause := by
  unfold single at failed
  split at failed
  · cases failed
    exact .inl rfl
  · cases decoded : decode row host with
    | ok inst =>
        rw [decoded] at failed
        cases failed
    | error first =>
        rw [decoded] at failed
        cases failed
        unfold report at isQuery ⊢
        split
        · exact .inr ⟨first, rfl⟩
        next other =>
          rw [if_neg other, (decode_neverQueries row host).query?_isSome decoded] at isQuery
          cases isQuery

/-- The answer of a lookup rejects nothing. -/
theorem Row.isRejection_of_single
    {row : Value}
    {host : String}
    {details : Fields}
    {failure : Failure}
    (failed : single row host details = .error failure) :
    failure.isRejection = false := by
  rw [← Bool.not_eq_true]
  intro isRejection
  rcases single_eq_error_query failed (Failure.query?_of_isRejection isRejection) with
    rfl | ⟨cause, rfl⟩
  · rw [Failure.notFound, Failure.isRejection_query (by decide)] at isRejection
    cases isRejection
  · rw [Failure.isRejection_internal] at isRejection
    cases isRejection

namespace Scan

theorem page_neverQueries (rows : List Value) : NeverQueries (page rows) := by
  suffices anyPage : ∀ start : Page, NeverQueries (rows.foldlM Row.addTo start) from anyPage {}
  induction rows with
  | nil => exact fun _ => nofun
  | cons row rows rowsHypothesis =>
      intro start
      rw [List.foldlM_cons]
      exact (Row.addTo_neverQueries start row).bind rowsHypothesis

/-- The judge of a scan refuses a row for what is wrong with it. -/
theorem query?_of_judge_eq_refuse
    {kept : List Value}
    {row : Value}
    {failure : Failure}
    (refuses : judge kept row = .refuse failure) :
    failure.query?.isSome = false := by
  unfold judge at refuses
  cases added : Row.addTo {} row with
  | ok page =>
      rw [added] at refuses
      cases refuses
  | error fault =>
      rw [added] at refuses
      cases refuses
      exact (Row.addTo_neverQueries {} row).query?_isSome added

end Scan

namespace Operation

/--
Every query failure that an operation ends in is one of the given ones, or an exchange was
answered with it.
-/
structure Relays (operation : Operation α) (given : Failure -> Prop) : Prop where
  origin : ∀ {isOpen left : Bool} {acts : List Act} {failure : Failure},
    Ends isOpen operation acts (.error failure) left -> failure.query?.isSome ->
    given failure ∨ ∃ exchange ∈ Act.exchanges acts, exchange.failure? = some failure

/-- The failure with which a request was answered. -/
theorem failure?_exchange
    {request : Request}
    {answer : Except Failure request.Reply}
    {failure : Failure}
    (failed : answer = .error failure) :
    (Exchange.mk request answer).failure? = some failure := by
  rw [failed]
  rfl

/-- How a reading fails, an answer failed; how it refuses a row, its judge does. -/
theorem Reading.origin
    {judge : List Value -> Value -> Verdict}
    {kept : List Value}
    {answers : List (Except Failure (Option Value))}
    {ending : RowsEnd}
    (reading : Reading judge kept answers ending) :
    (∀ failure, ending = .failed failure -> .error failure ∈ answers) ∧
    (∀ failure, ending = .refused failure -> ∃ kept row, judge kept row = .refuse failure) := by
  induction reading with
  | exhausted kept => exact ⟨nofun, nofun⟩
  | failed kept failure =>
      refine ⟨fun found same => ?_, nofun⟩
      cases same
      exact List.mem_cons_self
  | take verdict _ readingHypothesis =>
      obtain ⟨failed, refused⟩ := readingHypothesis
      exact ⟨fun failure same => List.mem_cons_of_mem _ (failed failure same), refused⟩
  | takeLast verdict => exact ⟨nofun, nofun⟩
  | refuse verdict =>
      refine ⟨nofun, fun found same => ?_⟩
      cases same
      exact ⟨_, _, verdict⟩

namespace Relays

variable {given : Failure -> Prop}

theorem done
    {outcome : Except Failure α}
    (queries : ∀ failure, outcome = .error failure -> failure.query?.isSome -> given failure) :
    (Operation.done outcome).Relays given := by
  constructor
  intro isOpen left acts failure ends isQuery
  obtain ⟨-, failed, -⟩ := ends_done_iff.mp ends
  exact .inl (queries failure failed.symm isQuery)

theorem fail
    {failure : Failure}
    (queries : failure.query?.isSome -> given failure) :
    (Operation.fail failure : Operation α).Relays given := by
  refine done fun found same isQuery => ?_
  cases same
  exact queries isQuery

theorem note
    {notice : Notice}
    {next : Operation α}
    (relays : next.Relays given) :
    (Operation.note notice next).Relays given := by
  constructor
  intro isOpen left acts failure ends isQuery
  obtain ⟨rest, rfl, nextEnds⟩ := ends_note_iff.mp ends
  rw [Act.exchanges_noted]
  exact relays.origin nextEnds isQuery

theorem ifOpen
    {whenOpen whenClosed : Operation α}
    (openRelays : whenOpen.Relays given)
    (closedRelays : whenClosed.Relays given) :
    (Operation.ifOpen whenOpen whenClosed).Relays given := by
  constructor
  intro isOpen left acts failure ends isQuery
  have branch := ends_ifOpen_iff.mp ends
  cases isOpen with
  | true => exact openRelays.origin branch isQuery
  | false => exact closedRelays.origin branch isQuery

/-- What follows a request may also end in the failure with which it was answered. -/
theorem call
    {request : Request}
    {next : Except Failure request.Reply -> Operation α}
    (relays : ∀ answer,
      (next answer).Relays fun failure => given failure ∨ answer = .error failure) :
    (Operation.call request next).Relays given := by
  constructor
  intro isOpen left acts failure ends isQuery
  obtain ⟨answer, rest, rfl, restEnds⟩ := ends_call_iff.mp ends
  rcases (relays answer).origin restEnds isQuery with
    (isGiven | failed) | ⟨exchange, later, same⟩
  · exact .inl isGiven
  · exact .inr ⟨⟨request, answer⟩, by simp, failure?_exchange failed⟩
  · exact .inr ⟨exchange, List.mem_cons_of_mem _ later, same⟩

/-- What follows a loop may also end in the failure with which a request for a row was answered. -/
theorem rows
    {kept : List Value}
    {judge : List Value -> Value -> Verdict}
    {next : RowsEnd -> Operation α}
    (judges : ∀ kept row failure, judge kept row = .refuse failure ->
      failure.query?.isSome = false)
    (relays : ∀ ending, (∀ failure, ending = .refused failure -> failure.query?.isSome = false) ->
      (next ending).Relays fun failure => given failure ∨ ending = .failed failure) :
    (Operation.rows kept judge next).Relays given := by
  constructor
  intro isOpen left acts failure ends isQuery
  obtain ⟨answers, ending, rest, rfl, reading, restEnds⟩ := ends.reading
  obtain ⟨failed, refused⟩ := reading.origin
  have refusedOther : ∀ failure, ending = .refused failure -> failure.query?.isSome = false := by
    intro failure same
    obtain ⟨kept, row, refuses⟩ := refused failure same
    exact judges kept row failure refuses
  rw [Act.exchanges_append, Act.exchanges_ofExchanges]
  rcases (relays ending refusedOther).origin restEnds isQuery with
    (isGiven | same) | ⟨exchange, later, same⟩
  · exact .inl isGiven
  · refine .inr ⟨.nextRow (.error failure), ?_, rfl⟩
    have read := List.mem_map_of_mem (f := Exchange.nextRow) (failed failure same)
    exact List.mem_append_left _ read
  · exact .inr ⟨exchange, List.mem_append_right _ later, same⟩

/-- What follows an operation may also end in the failure of that operation. -/
theorem attempt
    {operation : Operation α}
    {next : Except Failure α -> Operation β}
    (first : operation.Relays given)
    (rest : ∀ outcome,
      (next outcome).Relays fun failure => given failure ∨ outcome = .error failure) :
    (operation.attempt next).Relays given := by
  constructor
  intro isOpen left acts failure ends isQuery
  obtain ⟨before, after, middle, between, rfl, firstEnds, restEnds⟩ := ends_attempt_iff.mp ends
  rw [Act.exchanges_append]
  rcases (rest middle).origin restEnds isQuery with
    (isGiven | rfl) | ⟨exchange, later, same⟩
  · exact .inl isGiven
  · rcases first.origin firstEnds isQuery with isGiven | ⟨exchange, earlier, same⟩
    · exact .inl isGiven
    · exact .inr ⟨exchange, List.mem_append_left _ earlier, same⟩
  · exact .inr ⟨exchange, List.mem_append_right _ later, same⟩

theorem mono
    {operation : Operation α}
    {more : Failure -> Prop}
    (relays : operation.Relays given)
    (weaker : ∀ failure, given failure -> more failure) :
    operation.Relays more :=
  ⟨fun ends isQuery => (relays.origin ends isQuery).imp_left (weaker _)⟩

theorem andThen
    {operation : Operation α}
    {next : α -> Operation β}
    (first : operation.Relays given)
    (rest : ∀ answer, (next answer).Relays given) :
    (operation.andThen next).Relays given := by
  refine first.attempt fun outcome => ?_
  cases outcome with
  | ok answer => exact (rest answer).mono fun _ isGiven => .inl isGiven
  | error failure => exact fail fun _ => .inr rfl

end Relays
end Operation

variable {given : Failure -> Prop}

namespace Pool

theorem failWith_relays
    (event : Failure -> PoolEvent)
    (message : String)
    {failure : Failure}
    (isGiven : given failure) :
    (failWith event message failure : Operation α).Relays given := by
  unfold failWith
  split
  · exact .note (.fail nofun)
  · exact .fail fun _ => isGiven

theorem acquire_relays : acquire.Relays given := by
  refine .ifOpen (.call fun answer => ?_) (.fail nofun)
  cases answer with
  | ok connection => exact .note (.done nofun)
  | error failure => exact failWith_relays _ _ (.inr rfl)

theorem release_relays (connection : Connection) : (release connection).Relays given := by
  refine .ifOpen (.call fun answer => ?_) (.done nofun)
  cases answer with
  | ok => exact .note (.done nofun)
  | error failure => exact failWith_relays _ _ (.inr rfl)

end Pool

/-- A reported failure is that of a query only if nothing was changed about it. -/
theorem Statement.report_of_query?
    {statement : Statement}
    {message : String}
    {failure : Failure}
    (isQuery : (statement.report message failure).query?.isSome) :
    statement.report message failure = failure := by
  unfold report at isQuery ⊢
  split
  next isDriver =>
    rw [if_pos isDriver] at isQuery
    cases isQuery
  next => rfl

/-- Ending in a reported outcome relays the failure of that outcome. -/
theorem Statement.done_mapError_relays
    (statement : Statement)
    (message : String)
    {outcome : Except Failure α}
    (isGiven : ∀ failure, outcome = .error failure -> given failure) :
    (Operation.done (outcome.mapError (statement.report message))).Relays given := by
  cases outcome with
  | ok answer => exact .done nofun
  | error failure =>
      refine .fail fun isQuery => ?_
      rw [report_of_query? isQuery]
      exact isGiven failure rfl

namespace Executor

theorem fetchRow_relays (executor : Executor) (statement : Statement) :
    (executor.fetchRow statement).Relays given := by
  cases executor with
  | direct => exact .call fun fetched => .done fun failure failed _ => .inr failed
  | pooled prefetch =>
      refine Pool.acquire_relays.andThen fun connection => .call fun fetched => ?_
      refine (Pool.release_relays connection).attempt fun returned => ?_
      cases returned with
      | error failure => exact .fail fun _ => .inr rfl
      | ok => exact statement.done_mapError_relays _ fun failure failed => .inl (.inr failed)

theorem openRows_relays (executor : Executor) (statement : Statement) :
    (executor.openRows statement).Relays given := by
  cases executor with
  | direct =>
      refine .call fun opened => ?_
      cases opened with
      | ok => exact .done nofun
      | error failure => exact .fail fun _ => .inr rfl
  | pooled prefetch =>
      refine Pool.acquire_relays.andThen fun connection => .note (.call fun begun => ?_)
      cases begun with
      | ok => exact .done nofun
      | error failure =>
          simp only
          split
          · refine (Pool.release_relays connection).andThen fun _ => .fail fun isQuery => ?_
            rw [Statement.report_of_query? isQuery]
            exact .inr rfl
          · exact .fail fun _ => .inr rfl

end Executor

namespace Cursor

theorem read_relays
    (cursor : Cursor)
    {judge : List Value -> Value -> Verdict}
    (judges : ∀ kept row failure, judge kept row = .refuse failure ->
      failure.query?.isSome = false) :
    (cursor.read judge).Relays given := by
  cases cursor with
  | direct =>
      refine .rows judges fun ending refused => ?_
      cases ending with
      | refused failure => exact .fail fun isQuery => absurd isQuery (by simp [refused])
      | failed failure => exact .fail fun _ => .inr rfl
      | _ => exact .done nofun
  | pooled connection statement prefetch =>
      refine .note (.rows judges fun ending refused => ?_)
      cases ending with
      | refused failure => exact .fail fun isQuery => absurd isQuery (by simp [refused])
      | failed failure =>
          refine .fail fun isQuery => ?_
          rw [Statement.report_of_query? isQuery]
          exact .inr rfl
      | _ => exact .done nofun

theorem close_relays (cursor : Cursor) : cursor.close.Relays given := by
  cases cursor with
  | direct => exact .call fun closed => .done fun failure failed _ => .inr failed
  | pooled connection statement prefetch =>
      refine .call fun rolledBack => (Pool.release_relays connection).attempt fun returned => ?_
      cases returned with
      | error failure => exact .fail fun _ => .inr rfl
      | ok => exact statement.done_mapError_relays _ fun failure failed => .inl (.inr failed)

end Cursor

namespace Scan

/-- A failure that a scan reports by itself. -/
def Reports (details : Fields) (failure : Failure) : Prop :=
  ∃ message errorId cause, failure = .internal message errorId details cause

/-- A scan concludes with its own report, or reading or closing failed with the same failure. -/
theorem conclude_eq_error
    {details : Fields}
    {collected : Except Failure Page}
    {closed : Except Failure Unit}
    {failure : Failure}
    (concluded : conclude details collected closed = .error failure) :
    Reports details failure ∨ collected = .error failure ∨ closed = .error failure := by
  have reported (first : Failure) (same : report details first = failure) :
      Reports details failure ∨ first = failure := by
    subst same
    unfold report
    split
    · exact .inl ⟨_, _, _, rfl⟩
    · exact .inr rfl
  unfold conclude at concluded
  split at concluded
  · cases collected with
    | ok page => cases concluded
    | error first =>
        rcases reported first (Except.error.inj concluded) with isReport | rfl
        · exact .inl isReport
        · exact .inr (.inl rfl)
  next closing =>
    split at concluded
    · split at concluded
      · cases concluded
        exact .inl ⟨_, _, _, rfl⟩
      next first =>
        rcases reported first (Except.error.inj concluded) with isReport | rfl
        · exact .inl isReport
        · exact .inr (.inl rfl)
    · exact .inr (.inr (congrArg _ (Except.error.inj concluded)))

theorem run_relays
    (cursor : Cursor)
    {details : Fields}
    (reports : ∀ failure, Reports details failure -> given failure) :
    (run cursor details).Relays given := by
  have collects : (collect cursor).Relays given := by
    refine (cursor.read_relays fun _ _ _ => query?_of_judge_eq_refuse).attempt fun read => ?_
    cases read with
    | error failure => exact .fail fun _ => .inr rfl
    | ok rows =>
        refine .done fun failure failed isQuery => ?_
        rw [(page_neverQueries rows).query?_isSome failed] at isQuery
        cases isQuery
  refine collects.attempt fun collected => cursor.close_relays.attempt fun closed => ?_
  refine .done fun failure concluded _ => ?_
  rcases conclude_eq_error concluded with reported | same | same
  · exact .inl (.inl (reports failure reported))
  · exact .inl (.inr same)
  · exact .inr same

end Scan

/-- The query failures of a search are its own reports, or an exchange was answered with them. -/
theorem Repository.searchOperation_relays (repository : Repository) (statement : Statement) :
    (repository.searchOperation statement).Relays (Scan.Reports searchDetails) :=
  (repository.executor.openRows_relays statement).andThen fun cursor =>
    Scan.run_relays cursor fun _ reported => reported

/-- Recording an event rejects nothing by itself. -/
theorem Account.eq_of_isRejection
    {event : Event}
    {reporter : Reporter}
    {outcome : Except Failure α}
    {failure : Failure}
    (recorded : (Account.record event reporter outcome).outcome = .error failure)
    (isRejection : failure.isRejection) :
    outcome = .error failure := by
  rcases record_cases event reporter outcome with ⟨-, kept⟩ | ⟨-, key, refused⟩
  · rw [kept] at recorded
    exact recorded
  · rw [refused] at recorded
    cases recorded
    cases isRejection

/-- What an awaited operation did not reject, the account of its read does not either. -/
def Read.Relays : Read β α -> Prop
  | .settled _ => True
  | .awaiting operation conclude =>
      (operation.Relays fun failure => failure.isRejection = false) ∧
      ∀ {outcome : Except Failure β} {failure : Failure},
        (conclude outcome).outcome = .error failure -> failure.isRejection ->
        outcome = .error failure

/--
When a read ends in a rejection, nothing at all was asked of the driver, or the driver itself
answered with that very failure.
-/
theorem Read.Relays.untouched_or_answered
    {read : Read β α}
    {context : Context}
    {course : Course}
    {site : Site}
    {account : Account α}
    {failure : Failure}
    (relays : read.Relays)
    (ended : (read.conduct context course site).account? = some account)
    (failed : account.outcome = .error failure)
    (isRejection : failure.isRejection) :
    ((read.conduct context course site).exchanges = [] ∧
      (read.conduct context course site).site = site) ∨
    ∃ exchange ∈ (read.conduct context course site).exchanges,
      exchange.failure? = some failure := by
  cases read with
  | settled account => exact .inl ⟨rfl, rfl⟩
  | awaiting operation conclude =>
      obtain ⟨operationRelays, concludes⟩ := relays
      rcases Read.account_cases ended with
        ⟨reason, -, isReason, rfl⟩ | ⟨-, acts, outcome, ends, exchanged, rfl, -⟩
      · cases concludes failed isRejection
        rcases isReason with rfl | rfl <;> cases isRejection
      · cases concludes failed isRejection
        rcases operationRelays.origin ends (Failure.query?_of_isRejection isRejection) with
          isOther | found
        · rw [isOther] at isRejection
          cases isRejection
        · rw [exchanged] at found
          exact .inr found

namespace Repository

theorem compileThen_relays
    {next : Statement -> Read β α}
    (repository : Repository)
    (lookup : String)
    (reporter : Reporter)
    (draft : Except Failure Draft)
    (relays : ∀ statement, (next statement).Relays) :
    (repository.compileThen lookup reporter draft next).Relays := by
  rcases compileThen_cases repository lookup reporter draft next with
    ⟨account, settled⟩ | ⟨statement, -, goesOn⟩
  · rw [settled]
    trivial
  · rw [goesOn]
    exact relays statement

theorem lookUp_relays
    (repository : Repository)
    (reporter : Reporter)
    (lookup : Lookup)
    (draft : Except Failure Draft) :
    (repository.lookUp reporter lookup draft).Relays := by
  refine repository.compileThen_relays _ _ _ fun statement =>
    ⟨repository.executor.fetchRow_relays statement, fun {outcome failure} failed isRejection => ?_⟩
  unfold Lookup.conclude at failed
  split at failed
  next first =>
    split at failed
    · have same := Account.eq_of_isRejection failed isRejection
      cases same
      rw [Failure.isRejection_internal] at isRejection
      cases isRejection
    · cases failed
      rfl
  next row =>
    have other : Row.single row lookup.host lookup.details ≠ .error failure := by
      intro single
      rw [Row.isRejection_of_single single] at isRejection
      cases isRejection
    split at failed
    · cases Account.eq_of_isRejection failed isRejection
    next single =>
      split at failed
      · cases Account.eq_of_isRejection failed isRejection
        exact absurd single other
      · cases Account.eq_of_isRejection failed isRejection
        exact absurd single other
      · cases failed
        exact absurd single other

theorem search_relays (repository : Repository) (reporter : Reporter) (search : Search) :
    (repository.search reporter search).Relays := by
  refine repository.compileThen_relays _ _ _ fun statement =>
    ⟨(repository.searchOperation_relays statement).mono ?_,
      fun {outcome failure} failed isRejection => ?_⟩
  · rintro failure ⟨message, errorId, cause, rfl⟩
    exact Failure.isRejection_internal _ _ _ _
  unfold concludeSearch at failed
  split at failed
  · cases Account.eq_of_isRejection failed isRejection
  next first =>
    split at failed
    · cases Account.eq_of_isRejection failed isRejection
      rw [Failure.isRejection_internal] at isRejection
      cases isRejection
    · split at failed
      · exact Account.eq_of_isRejection failed isRejection
      · exact failed

end Repository

theorem Resolution.read_relays
    (resolution : Resolution)
    (repository : Repository)
    (reporter : Reporter) :
    (resolution.read repository reporter).Relays := by
  rw [read_eq_lookUp]
  exact repository.lookUp_relays reporter _ _

end InstanceDirectory
