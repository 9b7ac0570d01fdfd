import InstanceDirectory.Proofs.Progress
import InstanceDirectory.Scan

/-!
# Lending connections

What the operations on the pool, and those of the executor and its cursors over the pool,
can do and how they end.  Each operation has one lemma that says all of it, so that no
later proof has to look into the operation again.
-/

namespace InstanceDirectory

open Operation

namespace Pool

/-- What a failure is to users of the pool. -/
def surface (message : String) (failure : Failure) : Failure :=
  if failure.isDriver then .connection (message ++ failure.message) (some failure) else failure

/-- What the pool records about a failure. -/
def recordFailure (event : Failure -> PoolEvent) (failure : Failure) : List Act :=
  if failure.isDriver then [.noted (.logged (event failure).entry)] else []

/-- What the pool records about an answer. -/
def recordAnswer (done : PoolEvent) (failed : Failure -> PoolEvent) :
    Except Failure α -> List Act
  | .ok _ => [.noted (.logged done.entry)]
  | .error failure => recordFailure failed failure

@[simp] theorem exchanges_recordFailure (event : Failure -> PoolEvent) (failure : Failure) :
    Act.exchanges (recordFailure event failure) = [] := by
  unfold recordFailure
  split <;> rfl

@[simp] theorem exchanges_recordAnswer
    (done : PoolEvent)
    (failed : Failure -> PoolEvent)
    (answer : Except Failure α) :
    Act.exchanges (recordAnswer done failed answer) = [] := by
  cases answer with
  | ok answer => rfl
  | error failure => exact exchanges_recordFailure failed failure

variable {isOpen left : Bool} {acts : List Act}

theorem ends_failWith_iff
    {event : Failure -> PoolEvent}
    {message : String}
    {failure : Failure}
    {outcome : Except Failure α} :
    Ends isOpen (failWith event message failure) acts outcome left ↔
      acts = recordFailure event failure ∧ outcome = .error (surface message failure) ∧
        left = isOpen := by
  unfold failWith recordFailure surface
  cases failure.isDriver with
  | true =>
      simp only [if_true, ends_report_iff, ends_fail_iff]
      constructor
      · rintro ⟨rest, rfl, rfl, rfl, rfl⟩
        exact ⟨rfl, rfl, rfl⟩
      · rintro ⟨rfl, rfl, rfl⟩
        exact ⟨[], rfl, rfl, rfl, rfl⟩
  | false => simp

/-- A request whose answer is recorded, and whose failure is surfaced, is made once. -/
theorem ends_recorded_iff
    {request : Request}
    {done : PoolEvent}
    {failed : Failure -> PoolEvent}
    {message : String}
    {next : Except Failure request.Reply -> Operation request.Reply}
    {outcome : Except Failure request.Reply}
    (onAnswer : ∀ answer, next (.ok answer) = .report done (.succeed answer))
    (onFailure : ∀ failure, next (.error failure) = failWith failed message failure) :
    Ends isOpen (.call request next) acts outcome left ↔
      left = isOpen ∧ ∃ answer,
        acts = .exchanged ⟨request, answer⟩ :: recordAnswer done failed answer ∧
        outcome = answer.mapError (surface message) := by
  rw [ends_call_iff]
  constructor
  · rintro ⟨failure | answer, rest, rfl, ends⟩
    · rw [onFailure] at ends
      obtain ⟨rfl, rfl, rfl⟩ := ends_failWith_iff.mp ends
      exact ⟨rfl, .error failure, rfl, rfl⟩
    · rw [onAnswer] at ends
      obtain ⟨rest, rfl, succeeds⟩ := ends_report_iff.mp ends
      obtain ⟨rfl, rfl, rfl⟩ := ends_succeed_iff.mp succeeds
      exact ⟨rfl, .ok answer, rfl, rfl⟩
  · rintro ⟨rfl, failure | answer, rfl, rfl⟩
    · refine ⟨.error failure, _, rfl, ?_⟩
      rw [onFailure]
      exact ends_failWith_iff.mpr ⟨rfl, rfl, rfl⟩
    · refine ⟨.ok answer, _, rfl, ?_⟩
      rw [onAnswer]
      exact ends_report_iff.mpr ⟨[], rfl, ends_succeed_iff.mpr ⟨rfl, rfl, rfl⟩⟩

/-- Borrowing asks an open pool once. -/
theorem ends_acquire_iff {outcome : Except Failure Connection} :
    Ends true acquire acts outcome left ↔
      left = true ∧ ∃ answer,
        acts = .exchanged ⟨.acquire, answer⟩ ::
          recordAnswer .acquired .acquireFailed answer ∧
        outcome = answer.mapError (surface "Cannot acquire connection: ") := by
  unfold acquire
  rw [ends_ifOpen_iff, if_pos rfl]
  exact ends_recorded_iff (fun _ => rfl) fun _ => rfl

/-- Borrowing asks a closed pool for nothing. -/
theorem ends_acquire_closed_iff {outcome : Except Failure Connection} :
    Ends false acquire acts outcome left ↔
      acts = [] ∧ outcome = .error notOpen ∧ left = false := by
  unfold acquire
  rw [ends_ifOpen_iff, if_neg Bool.false_ne_true, ends_fail_iff]

/-- Giving back asks an open pool once. -/
theorem ends_release_iff {connection : Connection} {outcome : Except Failure Unit} :
    Ends true (release connection) acts outcome left ↔
      left = true ∧ ∃ answer,
        acts = .exchanged ⟨.release connection, answer⟩ ::
          recordAnswer .returned .returnFailed answer ∧
        outcome = answer.mapError (surface "Cannot release connection: ") := by
  unfold release
  rw [ends_ifOpen_iff, if_pos rfl]
  exact ends_recorded_iff (fun _ => rfl) fun _ => rfl

/-- Giving back asks a closed pool for nothing. -/
theorem ends_release_closed_iff {connection : Connection} {outcome : Except Failure Unit} :
    Ends false (release connection) acts outcome left ↔
      acts = [] ∧ outcome = .ok () ∧ left = false := by
  unfold release
  rw [ends_ifOpen_iff, if_neg Bool.false_ne_true, ends_succeed_iff]

/-- Opening an open pool asks for nothing. -/
theorem ends_establish_open_iff
    {settings : DatabaseSettings}
    {outcome : Except Failure Unit} :
    Ends true (establish settings) acts outcome left ↔
      acts = [] ∧ outcome = .ok () ∧ left = true := by
  unfold establish
  rw [ends_ifOpen_iff, if_pos rfl, ends_succeed_iff]

/--
Opening a closed pool asks the driver for a pool once, and the pool is open exactly when it
was given.  Settings that make no request fail before that.
-/
theorem ends_establish_iff
    {settings : DatabaseSettings}
    {outcome : Except Failure Unit} :
    Ends false (establish settings) acts outcome left ↔
      match request settings with
      | .ok request => ∃ answer,
          acts = .exchanged ⟨.createPool request, answer⟩ ::
            recordAnswer
              (.opened (.int settings.leastConnections) (.int settings.mostConnections))
              .openFailed answer ∧
          outcome = answer.mapError (surface "Failed to initialize connection pool: ") ∧
          left = answer.isOk
      | .error failure => acts = [] ∧ outcome = .error failure ∧ left = false := by
  unfold establish
  rw [ends_ifOpen_iff, if_neg Bool.false_ne_true]
  cases request settings with
  | error failure => exact ends_fail_iff
  | ok request =>
      simp only [create, ends_call_iff]
      constructor
      · rintro ⟨failure | _, rest, rfl, ends⟩
        · obtain ⟨rfl, rfl, rfl⟩ := ends_failWith_iff.mp ends
          exact ⟨.error failure, rfl, rfl, rfl⟩
        · obtain ⟨rest, rfl, succeeds⟩ := ends_report_iff.mp (ends_setOpen_iff.mp ends)
          obtain ⟨rfl, rfl, rfl⟩ := ends_succeed_iff.mp succeeds
          exact ⟨.ok (), rfl, rfl, rfl⟩
      · rintro ⟨failure | _, rfl, rfl, rfl⟩
        · exact ⟨.error failure, _, rfl, ends_failWith_iff.mpr ⟨rfl, rfl, rfl⟩⟩
        · exact ⟨.ok (), _, rfl, ends_setOpen_iff.mpr
            (ends_report_iff.mpr ⟨[], rfl, ends_succeed_iff.mpr ⟨rfl, rfl, rfl⟩⟩)⟩

/-- Closing asks an open pool once, and the pool stays open exactly when that fails. -/
theorem ends_close_iff {outcome : Except Failure Unit} :
    Ends true close acts outcome left ↔
      ∃ answer,
        acts = .exchanged ⟨.closePool, answer⟩ ::
          (if answer.isOk then [.noted (.logged PoolEvent.closed.entry)] else []) ∧
        outcome = answer ∧ left = !answer.isOk := by
  unfold close
  rw [ends_ifOpen_iff, if_pos rfl, ends_call_iff]
  constructor
  · rintro ⟨failure | _, rest, rfl, ends⟩
    · obtain ⟨rfl, rfl, rfl⟩ := ends_fail_iff.mp ends
      exact ⟨.error failure, rfl, rfl, rfl⟩
    · obtain ⟨rest, rfl, closes⟩ := ends_report_iff.mp ends
      obtain ⟨rfl, rfl, rfl⟩ := ends_succeed_iff.mp (ends_setOpen_iff.mp closes)
      exact ⟨.ok (), rfl, rfl, rfl⟩
  · rintro ⟨failure | _, rfl, rfl, rfl⟩
    · exact ⟨.error failure, _, rfl, ends_fail_iff.mpr ⟨rfl, rfl, rfl⟩⟩
    · exact ⟨.ok (), _, rfl, ends_report_iff.mpr
        ⟨[], rfl, ends_setOpen_iff.mpr (ends_succeed_iff.mpr ⟨rfl, rfl, rfl⟩)⟩⟩

/-- Closing asks a closed pool for nothing. -/
theorem ends_close_closed_iff {outcome : Except Failure Unit} :
    Ends false close acts outcome left ↔ acts = [] ∧ outcome = .ok () ∧ left = false := by
  unfold close
  rw [ends_ifOpen_iff, if_neg Bool.false_ne_true, ends_succeed_iff]

theorem failWith_endsWithin
    {most : Option Nat}
    (event : Failure -> PoolEvent)
    (message : String)
    (failure : Failure) :
    EndsWithin most (failWith event message failure : Operation α) 0 := by
  unfold failWith
  split
  · exact .note _ (.done _ _)
  · exact .done _ _

theorem acquire_endsWithin {most : Option Nat} : EndsWithin most acquire 1 := by
  refine .ifOpen (.call fun answer => ?_) (.done _ _)
  cases answer with
  | ok connection => exact .note _ (.done _ _)
  | error failure => exact failWith_endsWithin _ _ _

theorem release_endsWithin {most : Option Nat} (connection : Connection) :
    EndsWithin most (release connection) 1 := by
  refine .ifOpen (.call fun answer => ?_) (.done _ _)
  cases answer with
  | ok => exact .note _ (.done _ _)
  | error failure => exact failWith_endsWithin _ _ _

theorem establish_endsWithin {most : Option Nat} (settings : DatabaseSettings) :
    EndsWithin most (establish settings) 1 := by
  refine .ifOpen (.done _ _) ?_
  cases request settings with
  | error failure => exact .done _ _
  | ok request =>
      refine .call fun answer => ?_
      cases answer with
      | ok => exact .setOpen _ (.note _ (.done _ _))
      | error failure => exact failWith_endsWithin _ _ _

theorem close_endsWithin {most : Option Nat} : EndsWithin most close 1 := by
  refine .ifOpen (.call fun answer => ?_) (.done _ _)
  cases answer with
  | ok => exact .note _ (.setOpen _ (.done _ _))
  | error failure => exact .done _ _

end Pool

namespace Operation

/--
Reading by a judge from the rows kept so far can get the given answers, one for each
request of the next row, and end in the given way.
-/
inductive Reading (judge : List Value -> Value -> Verdict) :
    List Value -> List (Except Failure (Option Value)) -> RowsEnd -> Prop where
  | exhausted (kept : List Value) : Reading judge kept [.ok none] (.exhausted kept)
  | failed (kept : List Value) (failure : Failure) :
      Reading judge kept [.error failure] (.failed failure)
  | take {kept : List Value} {row : Value} {answers : List (Except Failure (Option Value))}
      {ending : RowsEnd} :
      judge kept row = .take -> Reading judge (kept ++ [row]) answers ending ->
      Reading judge kept (.ok (some row) :: answers) ending
  | takeLast {kept : List Value} {row : Value} :
      judge kept row = .takeLast ->
      Reading judge kept [.ok (some row)] (.sufficient (kept ++ [row]))
  | refuse {kept : List Value} {row : Value} {failure : Failure} :
      judge kept row = .refuse failure ->
      Reading judge kept [.ok (some row)] (.refused failure)

variable {isOpen left : Bool} {acts : List Act} {outcome : Except Failure α}
  {kept : List Value} {judge : List Value -> Value -> Verdict} {next : RowsEnd -> Operation α}

/-- A loop asks for rows until they end, and then goes on. -/
theorem Ends.reading (ends : Ends isOpen (.rows kept judge next) acts outcome left) :
    ∃ answers ending rest, acts = Act.ofExchanges (answers.map Exchange.nextRow) ++ rest ∧
      Reading judge kept answers ending ∧ Ends isOpen (next ending) rest outcome left := by
  generalize whole : Operation.rows kept judge next = loop at ends
  induction ends generalizing kept with
  | @rows isOpen kept _ _ answer acts outcome left rest restHypothesis =>
      cases whole
      rcases answer with failure | (_ | row)
      · exact ⟨[.error failure], .failed failure, acts, rfl, .failed kept failure, rest⟩
      · exact ⟨[.ok none], .exhausted kept, acts, rfl, .exhausted kept, rest⟩
      · cases verdict : judge kept row with
        | take =>
            simp only [afterRow, verdict] at restHypothesis
            obtain ⟨answers, ending, later, rfl, reading, ends⟩ := restHypothesis rfl
            exact ⟨.ok (some row) :: answers, ending, later, rfl, .take verdict reading, ends⟩
        | takeLast =>
            simp only [afterRow, verdict] at rest
            exact ⟨[.ok (some row)], .sufficient (kept ++ [row]), acts, rfl,
              .takeLast verdict, rest⟩
        | refuse failure =>
            simp only [afterRow, verdict] at rest
            exact ⟨[.ok (some row)], .refused failure, acts, rfl, .refuse verdict, rest⟩
  | _ => cases whole

end Operation

namespace Cursor

variable {isOpen left : Bool} {acts : List Act} {connection : Connection}
  {statement : Statement} {prefetch : Int}

/-- The outcome of reading rows, the failure of a reading being reported. -/
def concludeRows (report : Failure -> Failure) : RowsEnd -> Except Failure (List Value)
  | .exhausted kept => .ok kept
  | .sufficient kept => .ok kept
  | .refused failure => .error failure
  | .failed failure => .error (report failure)

/-- The outcome of closing: giving the connection back comes before the transaction's end. -/
def concludeClosing (statement : Statement) (rolledBack : Except Failure Unit) :
    Except Failure Unit -> Except Failure Unit
  | .error failure => .error (Pool.surface "Cannot release connection: " failure)
  | .ok () => rolledBack.mapError (statement.report "Closing rows failed: ")

/-- Reading over a connection asks for nothing but rows. -/
theorem ends_read_pooled
    {judge : List Value -> Value -> Verdict}
    {outcome : Except Failure (List Value)}
    (ends : Ends isOpen ((pooled connection statement prefetch).read judge) acts outcome left) :
    left = isOpen ∧ ∃ answers ending,
      acts = .noted (.contact (.cursor connection statement prefetch)) ::
        Act.ofExchanges (answers.map Exchange.nextRow) ∧
      Reading judge [] answers ending ∧
      outcome = concludeRows (statement.report "Reading rows failed: ") ending := by
  obtain ⟨rest, rfl, loopEnds⟩ := ends_note_iff.mp ends
  obtain ⟨answers, ending, last, rfl, reading, ends⟩ := loopEnds.reading
  have lastEnds : last = [] ∧
      outcome = concludeRows (statement.report "Reading rows failed: ") ending ∧
        left = isOpen := by
    cases ending <;> exact ends_done_iff.mp ends
  obtain ⟨rfl, rfl, rfl⟩ := lastEnds
  exact ⟨rfl, answers, ending, by simp, reading, rfl⟩

/-- Closing a cursor over a connection gives the connection back whatever comes of it. -/
theorem ends_close_pooled
    {outcome : Except Failure Unit}
    (ends : Ends true (pooled connection statement prefetch).close acts outcome left) :
    left = true ∧ ∃ rolledBack returned,
      acts = .exchanged ⟨.rollback connection, rolledBack⟩ ::
        .exchanged ⟨.release connection, returned⟩ ::
        Pool.recordAnswer .returned .returnFailed returned ∧
      outcome = concludeClosing statement rolledBack returned := by
  obtain ⟨rolledBack, rest, rfl, returning⟩ := ends_call_iff.mp ends
  obtain ⟨giving, last, middle, between, rfl, givingBack, ending⟩ := ends_attempt_iff.mp returning
  obtain ⟨rfl, returned, rfl, rfl⟩ := Pool.ends_release_iff.mp givingBack
  have lastEnds : last = [] ∧ outcome = concludeClosing statement rolledBack returned ∧
      left = true := by
    cases returned <;> exact ends_done_iff.mp ending
  obtain ⟨rfl, rfl, rfl⟩ := lastEnds
  exact ⟨rfl, rolledBack, returned, by simp, rfl⟩

end Cursor

namespace Executor

variable {left : Bool} {acts : List Act} {statement : Statement}

/-- The outcome of reading one row: giving the connection back comes before the row. -/
def concludeRow (statement : Statement) (fetched : Except Failure Value) :
    Except Failure Unit -> Except Failure Value
  | .error failure => .error (Pool.surface "Cannot release connection: " failure)
  | .ok () => fetched.mapError (statement.report "Query execution failed: ")

/-- What happens before an operation that needs a connection. -/
theorem ends_acquire_andThen
    {next : Connection -> Operation α}
    {outcome : Except Failure α}
    (ends : Ends true (Pool.acquire.andThen next) acts outcome left) :
    (left = true ∧ ∃ failure,
      acts = .exchanged ⟨.acquire, .error failure⟩ ::
        Pool.recordFailure .acquireFailed failure ∧
      outcome = .error (Pool.surface "Cannot acquire connection: " failure)) ∨
    ∃ connection rest,
      acts = .exchanged ⟨.acquire, .ok connection⟩ ::
        .noted (.logged PoolEvent.acquired.entry) :: rest ∧
      Ends true (next connection) rest outcome left := by
  rcases ends_andThen_iff.mp ends with
    ⟨failure, borrowing, rfl⟩ | ⟨before, after, connection, between, rfl, borrowing, going⟩
  · obtain ⟨rfl, failure | connection, rfl, failed⟩ := Pool.ends_acquire_iff.mp borrowing
    · cases failed
      exact .inl ⟨rfl, failure, rfl, rfl⟩
    · cases failed
  · obtain ⟨rfl, failure | lent, rfl, same⟩ := Pool.ends_acquire_iff.mp borrowing
    · cases same
    · cases same
      exact .inr ⟨connection, after, rfl, going⟩

/-- A row is read over a borrowed connection, which is given back whatever comes of it. -/
theorem ends_fetchRowPooled
    {outcome : Except Failure Value}
    (ends : Ends true (fetchRowPooled statement) acts outcome left) :
    left = true ∧
    ((∃ failure,
      acts = .exchanged ⟨.acquire, .error failure⟩ ::
        Pool.recordFailure .acquireFailed failure ∧
      outcome = .error (Pool.surface "Cannot acquire connection: " failure)) ∨
    ∃ connection fetched returned,
      acts = .exchanged ⟨.acquire, .ok connection⟩ ::
        .noted (.logged PoolEvent.acquired.entry) ::
        .exchanged ⟨.fetchRow (some connection) statement, fetched⟩ ::
        .exchanged ⟨.release connection, returned⟩ ::
        Pool.recordAnswer .returned .returnFailed returned ∧
      outcome = concludeRow statement fetched returned) := by
  rcases ends_acquire_andThen ends with
    ⟨rfl, failure, rfl, rfl⟩ | ⟨connection, rest, rfl, going⟩
  · exact ⟨rfl, .inl ⟨failure, rfl, rfl⟩⟩
  · obtain ⟨fetched, rest, rfl, returning⟩ := ends_call_iff.mp going
    obtain ⟨giving, last, middle, between, rfl, givingBack, ending⟩ :=
      ends_attempt_iff.mp returning
    obtain ⟨rfl, returned, rfl, rfl⟩ := Pool.ends_release_iff.mp givingBack
    have lastEnds : last = [] ∧ outcome = concludeRow statement fetched returned ∧
        left = true := by
      cases returned <;> exact ends_done_iff.mp ending
    obtain ⟨rfl, rfl, rfl⟩ := lastEnds
    exact ⟨rfl, .inr ⟨connection, fetched, returned, by simp, rfl⟩⟩

/-- Reading a row asks a closed pool for nothing. -/
theorem ends_fetchRowPooled_closed
    {outcome : Except Failure Value}
    (ends : Ends false (fetchRowPooled statement) acts outcome left) :
    acts = [] ∧ outcome = .error Pool.notOpen ∧ left = false := by
  rcases ends_andThen_iff.mp ends with
    ⟨failure, borrowing, rfl⟩ | ⟨before, after, connection, between, rfl, borrowing, going⟩
  · obtain ⟨rfl, failed, rfl⟩ := Pool.ends_acquire_closed_iff.mp borrowing
    cases failed
    exact ⟨rfl, rfl, rfl⟩
  · obtain ⟨rfl, failed, rfl⟩ := Pool.ends_acquire_closed_iff.mp borrowing
    cases failed

/-- Reading a row borrows, reads and gives back, and then it has ended. -/
theorem fetchRowPooled_endsWithin {most : Option Nat} (statement : Statement) :
    EndsWithin most (fetchRowPooled statement) 3 := by
  show EndsWithin most _ (1 + 2)
  refine Pool.acquire_endsWithin.andThen fun connection => .call fun fetched => ?_
  show EndsWithin most _ (1 + 0)
  refine (Pool.release_endsWithin connection).attempt fun returned => ?_
  cases returned <;> exact .done _ _

/-- Reading a row needs at most three answers, wherever statements are executed. -/
theorem fetchRow_endsWithin {most : Option Nat} (executor : Executor) (statement : Statement) :
    EndsWithin most (executor.fetchRow statement) 3 := by
  cases executor with
  | direct => exact .call fun fetched => .done fetched _
  | pooled prefetch => exact fetchRowPooled_endsWithin statement

/--
A transaction that starts leaves its connection with the cursor.  One that does not gives
the connection back when the driver failed or the start was interrupted.
-/
theorem ends_startTransaction
    {connection : Connection}
    {prefetch : Int}
    {outcome : Except Failure Cursor}
    (ends : Ends true (startTransaction connection statement prefetch) acts outcome left) :
    left = true ∧ ∃ begun rest,
      acts = .noted (.contact (.transaction connection true)) ::
        .exchanged ⟨.beginTransaction connection, begun⟩ :: rest ∧
      match begun with
      | .ok () => rest = [] ∧ outcome = .ok (.pooled connection statement prefetch)
      | .error failure =>
          (∃ final, outcome = .error final) ∧
          if failure.isDriver || failure.isInterruption then
            ∃ returned, rest = .exchanged ⟨.release connection, returned⟩ ::
              Pool.recordAnswer .returned .returnFailed returned
          else rest = [] := by
  obtain ⟨_, rfl, begins⟩ := ends_note_iff.mp ends
  obtain ⟨failure | _, rest, rfl, going⟩ := ends_call_iff.mp begins
  · cases expected : failure.isDriver || failure.isInterruption with
    | false =>
        simp only [expected, Bool.false_eq_true, if_false] at going
        obtain ⟨rfl, rfl, rfl⟩ := ends_fail_iff.mp going
        exact ⟨rfl, _, _, rfl, ⟨_, rfl⟩, by simp [expected]⟩
    | true =>
        simp only [expected, if_true] at going
        rcases ends_andThen_iff.mp going with
          ⟨final, givingBack, rfl⟩ | ⟨giving, last, _, between, rfl, givingBack, ending⟩
        · obtain ⟨rfl, returned, rfl, _⟩ := Pool.ends_release_iff.mp givingBack
          exact ⟨rfl, _, _, rfl, ⟨_, rfl⟩, by simp [expected]⟩
        · obtain ⟨rfl, returned, rfl, _⟩ := Pool.ends_release_iff.mp givingBack
          obtain ⟨rfl, rfl, rfl⟩ := ends_fail_iff.mp ending
          exact ⟨rfl, _, _, rfl, ⟨_, rfl⟩, by simp [expected]⟩
  · obtain ⟨rfl, rfl, rfl⟩ := ends_succeed_iff.mp going
    exact ⟨rfl, _, _, rfl, rfl, rfl⟩

/-- A transaction starts, or its connection is given back, and then the start has ended. -/
theorem startTransaction_endsWithin
    {most : Option Nat}
    (connection : Connection)
    (statement : Statement)
    (prefetch : Int) :
    EndsWithin most (startTransaction connection statement prefetch) 2 := by
  refine .note _ (.call fun begun => ?_)
  cases begun with
  | ok => exact .done _ _
  | error failure =>
      simp only
      split
      · show EndsWithin most _ (1 + 0)
        exact (Pool.release_endsWithin connection).andThen fun _ => .done _ _
      · exact .done _ _

/-- Opening rows needs at most three answers, wherever statements are executed. -/
theorem openRows_endsWithin {most : Option Nat} (executor : Executor) (statement : Statement) :
    EndsWithin most (executor.openRows statement) 3 := by
  cases executor with
  | direct => exact .call fun opened => .done _ _
  | pooled prefetch =>
      show EndsWithin most _ (1 + 2)
      exact Pool.acquire_endsWithin.andThen fun connection =>
        startTransaction_endsWithin connection statement prefetch

end Executor

namespace Cursor

/-- Reading needs an answer for every row that is there, and one for their end. -/
theorem read_endsWithin
    (number : Nat)
    (cursor : Cursor)
    (judge : List Value -> Value -> Verdict) :
    EndsWithin (some number) (cursor.read judge) (number + 1) := by
  have unread : number + 1 = 0 + (number - ([] : List Value).length) + 1 := by simp
  rw [unread]
  cases cursor with
  | direct =>
      refine .rows rfl [] judge fun ending => ?_
      cases ending <;> exact .done _ _
  | pooled connection statement prefetch =>
      refine .note _ (.rows rfl [] judge fun ending => ?_)
      cases ending <;> exact .done _ _

/-- Closing needs at most two answers. -/
theorem close_endsWithin {most : Option Nat} (cursor : Cursor) :
    EndsWithin most cursor.close 2 := by
  cases cursor with
  | direct => exact .call fun closed => .done _ _
  | pooled connection statement prefetch =>
      refine .call fun rolledBack => ?_
      show EndsWithin most _ (1 + 0)
      refine (Pool.release_endsWithin connection).attempt fun returned => ?_
      cases returned <;> exact .done _ _

end Cursor

/-- A scan reads rows by its judge and then closes the cursor, whatever came of the reading. -/
theorem Scan.ends_run
    {cursor : Cursor}
    {details : Fields}
    {isOpen left : Bool}
    {acts : List Act}
    {outcome : Except Failure Page}
    (ends : Ends isOpen (Scan.run cursor details) acts outcome left) :
    ∃ reading closing read closed between, acts = reading ++ closing ∧
      Ends isOpen (cursor.read Scan.judge) reading read between ∧
      Ends between cursor.close closing closed left ∧
      outcome = Scan.conclude details (read.bind Scan.page) closed := by
  obtain ⟨collects, rest, collected, middle, rfl, collecting, finishing⟩ := ends_attempt_iff.mp ends
  obtain ⟨reading, judged, read, between, rfl, readEnds, judging⟩ :=
    ends_attempt_iff.mp collecting
  have judgedEnds : judged = [] ∧ collected = read.bind Scan.page ∧ middle = between := by
    cases read <;> exact ends_done_iff.mp judging
  obtain ⟨rfl, rfl, rfl⟩ := judgedEnds
  obtain ⟨closing, last, closed, _, rfl, closeEnds, concluding⟩ := ends_attempt_iff.mp finishing
  obtain ⟨rfl, rfl, rfl⟩ := ends_done_iff.mp concluding
  exact ⟨reading, closing, read, closed, middle, by simp, readEnds, closeEnds, rfl⟩

/-- A scan reads all rows that are there and closes the cursor, and then it has ended. -/
theorem Scan.run_endsWithin (number : Nat) (cursor : Cursor) (details : Fields) :
    EndsWithin (some number) (Scan.run cursor details) (number + 3) := by
  have collects : EndsWithin (some number) (Scan.collect cursor) (number + 1 + 0) := by
    refine (cursor.read_endsWithin number Scan.judge).attempt fun read => ?_
    cases read <;> exact .done _ _
  show EndsWithin (some number) _ (number + 1 + 0 + (2 + 0))
  exact collects.attempt fun collected =>
    cursor.close_endsWithin.attempt fun closed => .done _ _

end InstanceDirectory
