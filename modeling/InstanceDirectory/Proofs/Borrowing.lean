import InstanceDirectory.Proofs.Conduct
import InstanceDirectory.Proofs.Lending

/-!
# Reading a row over a borrowed connection

Reading a row over the pool borrows a connection, executes the statement once and gives the
connection back.  Each of the three requests may be refused by the driver, fail in another
way or be interrupted.  Whatever happens, a connection that was borrowed is given back before
the reading ends, and the outcome is that of the first failure in the order of borrowing,
giving back and executing.
-/

namespace InstanceDirectory

open Operation

/-- What comes of the three requests of reading a row. -/
structure RowAnswers where
  /-- The connection that is borrowed. -/
  acquired : Except Failure Connection
  /-- The row that the statement returns. -/
  fetched : Except Failure Value
  /-- Whether the connection is taken back. -/
  returned : Except Failure Unit

namespace RowAnswers

/--
The exchanges of reading a row: nothing is executed and nothing is given back unless a
connection was borrowed, and then both happen once over that connection.
-/
def exchanges (answers : RowAnswers) (statement : Statement) : List Exchange :=
  ⟨.acquire, answers.acquired⟩ ::
    match answers.acquired with
    | .error _ => []
    | .ok connection => [
        ⟨.fetchRow (some connection) statement, answers.fetched⟩,
        ⟨.release connection, answers.returned⟩]

/-- What the pool records of lending the connection and of taking it back. -/
def records (answers : RowAnswers) : List Act :=
  Pool.recordAnswer .acquired .acquireFailed answers.acquired ++
    match answers.acquired with
    | .error _ => []
    | .ok _ => Pool.recordAnswer .returned .returnFailed answers.returned

/-- The outcome of reading a row: the first failure decides, and otherwise the row stands. -/
def outcome (answers : RowAnswers) (statement : Statement) : Except Failure Value := do
  let _ ← answers.acquired.mapError (Pool.surface "Cannot acquire connection: ")
  answers.returned.mapError (Pool.surface "Cannot release connection: ")
  answers.fetched.mapError (statement.report "Query execution failed: ")

/-- Giving back comes before the row. -/
theorem outcome_acquired
    (connection : Connection)
    (fetched : Except Failure Value)
    (returned : Except Failure Unit)
    (statement : Statement) :
    outcome ⟨.ok connection, fetched, returned⟩ statement =
      Executor.concludeRow statement fetched returned := by
  cases returned <;> rfl

end RowAnswers

namespace Executor

variable {statement : Statement} {acts : List Act} {outcome : Except Failure Value} {left : Bool}

/-- What reading a row over an open pool comes to is decided by the three answers. -/
theorem exists_answers_of_ends
    (ends : Ends true (fetchRowPooled statement) acts outcome left) :
    left = true ∧ ∃ answers : RowAnswers,
      Act.exchanges acts = answers.exchanges statement ∧
      Act.remarks acts = Act.remarks answers.records ∧
      outcome = answers.outcome statement := by
  obtain ⟨rfl, ⟨failure, rfl, rfl⟩ | ⟨connection, fetched, returned, rfl, rfl⟩⟩ :=
    ends_fetchRowPooled ends
  · refine ⟨rfl, ⟨.error failure, .ok .null, .ok ()⟩, ?_, ?_, rfl⟩
    · simp [RowAnswers.exchanges]
    · simp [RowAnswers.records, Pool.recordAnswer, Act.remarks]
  · refine ⟨rfl, ⟨.ok connection, fetched, returned⟩, ?_, ?_, ?_⟩
    · simp [RowAnswers.exchanges]
    · simp [RowAnswers.records, Pool.recordAnswer, Act.remarks]
    · exact (RowAnswers.outcome_acquired connection fetched returned statement).symm

end Executor

/--
Reading a row over the pool ends after at most three answers, whatever they are and whenever
it is interrupted.  It leaves the pool as it was.  An open pool was asked for a connection,
and one that it lent was used once for exactly the statement and then given back once; the
answers decide the outcome and what is recorded.  A closed pool was asked for nothing.
-/
theorem fetchRow_gives_back
    (prefetch : Int)
    (statement : Statement)
    (site : Site)
    (moments : List Moment) :
    let running := Supervision.start ((Executor.pooled prefetch).fetchRow statement) site
    let ended := running.after moments
    (3 ≤ Moment.answers moments -> ∃ outcome, ended.operation.outcome? = some outcome) ∧
    (∀ exchange ∈ running.exchanges moments,
      (∃ answerer, .answered answerer ∈ moments ∧
        exchange.answer = answerer exchange.request) ∨
      (exchange.answer = .error .interrupted ∧ ended.fired)) ∧
    ∀ outcome, ended.operation.outcome? = some outcome ->
      ended.site.isOpen = site.isOpen ∧
      if site.isOpen then
        ∃ answers : RowAnswers,
          running.exchanges moments = answers.exchanges statement ∧
          ended.site.remarks = site.remarks ++ Act.remarks answers.records ∧
          outcome = answers.outcome statement
      else
        running.exchanges moments = [] ∧ ended.site.remarks = site.remarks ∧
        outcome = .error Pool.notOpen := by
  intro running ended
  refine ⟨fun enough => ?_, fun exchange happened => ?_, fun outcome isEnd => ?_⟩
  · exact Supervision.ends_of_answers
      ((Executor.fetchRowPooled_endsWithin statement).settle site)
      ((Executor.fetchRowPooled statement).isSettled_settle site) enough
  · exact Supervision.answered_or_interrupted happened
  · obtain ⟨acts, ends, exchanged, remarked⟩ := Supervision.ends_of_outcome? isEnd
    rw [← exchanged]
    cases found : site.isOpen with
    | true =>
        rw [found] at ends
        obtain ⟨left, answers, sameExchanges, sameRemarks, same⟩ :=
          Executor.exists_answers_of_ends ends
        exact ⟨left, answers, sameExchanges, sameRemarks ▸ remarked, same⟩
    | false =>
        rw [found] at ends
        obtain ⟨rfl, rfl, left⟩ := Executor.ends_fetchRowPooled_closed ends
        rw [Act.remarks_nil, List.append_nil] at remarked
        exact ⟨left, rfl, remarked, rfl⟩

/-- A driver that returns a row and then refuses to take the connection back. -/
def Answerer.refusingReturn : Answerer
  | .release _ => .error { kind := .driver .interface, message := "gone" }
  | request => granting (.list []) request

/-- A connection that is not taken back takes the place of the row. -/
theorem fetchRow_gives_back_refused :
    let statement : Statement := { text := "SELECT $1", arguments := [.int 7] }
    let running := Supervision.start ((Executor.pooled 50).fetchRow statement) { isOpen := true }
    let moments := List.replicate 3 (.answered .refusingReturn)
    ∃ failure,
      (running.after moments).operation.outcome? = some (.error failure) ∧
      failure.message = "Cannot release connection: gone" ∧
      ∃ answers : RowAnswers, running.exchanges moments = answers.exchanges statement ∧
        .error failure = answers.outcome statement := by
  intro statement running moments
  obtain ⟨-, -, concludes⟩ := fetchRow_gives_back 50 statement { isOpen := true } moments
  obtain ⟨-, answers, exchanged, -, same⟩ := concludes _ rfl
  exact ⟨_, rfl, rfl, answers, exchanged, same⟩

end InstanceDirectory
