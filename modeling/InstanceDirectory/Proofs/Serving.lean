import InstanceDirectory.Proofs.Conduct
import InstanceDirectory.Proofs.Resolution
import InstanceDirectory.Proofs.Scanning

/-!
# Searches that are served

A driver serves rows when it grants every request and answers requests for rows with these
rows in order and then with their end.  A search that is served ends after as many answers as
there are rows, and six more.  It has then read all of the rows.
-/

namespace InstanceDirectory

open Operation

namespace Exchange

/-- The reply to a request for a row that was granted. -/
def reply? : Exchange -> Option (Option Value)
  | ⟨.nextRow, .ok reply⟩ => some reply
  | _ => none

/-- The replies to requests for rows, in order. -/
def replies (exchanges : List Exchange) : List (Option Value) :=
  exchanges.filterMap reply?

/-- All requests are granted, and rows are given in order before their end. -/
structure Serve (rows : List Value) (exchanges : List Exchange) : Prop where
  granted : ∀ exchange ∈ exchanges, exchange.failure? = none
  inOrder : replies exchanges <+: rows.map some ++ [none]

theorem replies_append (first second : List Exchange) :
    replies (first ++ second) = replies first ++ replies second :=
  List.filterMap_append

/-- Granted requests for rows have replies. -/
theorem exists_replies
    {answers : List (Except Failure (Option Value))}
    (granted : ∀ exchange ∈ answers.map nextRow, exchange.failure? = none) :
    ∃ replies : List (Option Value), answers = replies.map .ok := by
  induction answers with
  | nil => exact ⟨[], rfl⟩
  | cons answer answers answersHypothesis =>
      rw [List.map_cons, List.forall_mem_cons] at granted
      obtain ⟨replies, rfl⟩ := answersHypothesis granted.2
      cases answer with
      | error failure => cases granted.1
      | ok reply => exact ⟨reply :: replies, rfl⟩

theorem replies_nextRow (given : List (Option Value)) :
    replies ((given.map .ok).map nextRow) = given := by
  induction given with
  | nil => rfl
  | cons reply given givenHypothesis => exact congrArg (reply :: ·) givenHypothesis

/-- The number of rows among replies. -/
def rowCount (exchanges : List Exchange) : Nat :=
  ((replies exchanges).filterMap id).length

theorem rowCount_append (first second : List Exchange) :
    rowCount (first ++ second) = rowCount first + rowCount second := by
  rw [rowCount, replies_append, List.filterMap_append, List.length_append]
  rfl

/-- No more rows are read than are served. -/
theorem Serve.rowCount_le
    {rows : List Value}
    {exchanges : List Exchange}
    (serves : Serve rows exchanges) :
    rowCount exchanges ≤ rows.length := by
  have read := serves.inOrder.filterMap id
  have all : (rows.map some ++ [none]).filterMap id = rows := by
    simp [List.filterMap_append, List.filterMap_map]
  rw [all] at read
  exact read.length_le

end Exchange

/-- A row that is read takes nothing from the answers that a loop needs besides its rows. -/
theorem Operation.EndsWithin.answer_row
    {kept : List Value}
    {judge : List Value -> Value -> Verdict}
    {next : RowsEnd -> Operation α}
    {bound : Nat}
    {answerer : Answerer}
    {row : Value}
    (within : EndsWithin (some 0) (.rows kept judge next) bound)
    (given : answerer .nextRow = .ok (some row))
    (site : Site) :
    EndsWithin (some 0) ((Operation.rows kept judge next).answer answerer site).1 bound := by
  cases within with
  | @rows number limited _ _ _ later nextWithin =>
      cases limited
      have ends (ending : RowsEnd) (traced : Site) :
          EndsWithin (some 0) ((next ending).settle traced).1 (later + (0 - kept.length) + 1) :=
        ((nextWithin ending).settle traced).mono (by omega)
      unfold Operation.answer
      simp only [given]
      cases judge kept row with
      | take =>
          have same : 0 - kept.length = 0 - (kept ++ [row]).length := by omega
          rw [same]
          exact .rows rfl _ judge nextWithin
      | takeLast => exact ends _ _
      | refuse failure => exact ends _ _

/-- What is not all rows is a further row for an operation that waits for one. -/
theorem Operation.exists_row_of_not_hasAllRows
    {operation : Operation α}
    {answerer : Answerer}
    (goesOn : ¬ operation.HasAllRows (some 0) answerer) :
    ∃ kept judge next row, operation = .rows kept judge next ∧
      answerer .nextRow = .ok (some row) := by
  cases operation with
  | rows kept judge next =>
      obtain ⟨row, given⟩ : ∃ row, answerer .nextRow = .ok (some row) := by
        simpa [HasAllRows] using goesOn
      exact ⟨kept, judge, next, row, rfl, given⟩
  | _ => exact absurd trivial goesOn

namespace Supervision

/--
Moments bring an operation to its end that answer often enough for its other requests and for
the rows that are read.
-/
theorem ends_of_rowCount
    {supervision : Supervision α}
    {bound number : Nat}
    {moments : List Moment}
    (within : supervision.operation.EndsWithin (some 0) bound)
    (settled : supervision.operation.IsSettled)
    (few : Exchange.rowCount (supervision.exchanges moments) ≤ number)
    (enough : bound + number ≤ Moment.answers moments) :
    ∃ outcome, (supervision.after moments).operation.outcome? = some outcome := by
  induction moments generalizing supervision bound number with
  | nil =>
      cases ended : supervision.operation.outcome? with
      | some outcome => exact ⟨outcome, ended⟩
      | none =>
          have positive := within.bound_pos settled ended
          have none : bound + number ≤ 0 := enough
          omega
  | cons moment moments momentsHypothesis =>
      cases ended : supervision.operation.outcome? with
      | some outcome => exact ⟨outcome, outcome?_after ended _⟩
      | none =>
          have positive := within.bound_pos settled ended
          rw [exchanges_cons, Exchange.rowCount_append] at few
          rw [after_cons]
          cases moment with
          | answered answerer =>
              rw [Moment.answers_answered] at enough
              have laterSettled := supervision.operation.isSettled_answer answerer supervision.site
              by_cases hasAll : supervision.operation.HasAllRows (some 0) answerer
              · have later := within.answer settled hasAll supervision.site
                exact @momentsHypothesis _ _ number later laterSettled (by omega) (by omega)
              · obtain ⟨kept, judge, next, row, waiting, given⟩ :=
                  Operation.exists_row_of_not_hasAllRows hasAll
                have counted : Exchange.rowCount
                    (supervision.exchange? (.answered answerer)).toList = 1 := by
                  simp [exchange?, waiting, request?, Exchange.rowCount, Exchange.replies,
                    Exchange.reply?, given]
                rw [waiting] at within
                have later := within.answer_row given supervision.site
                rw [← waiting] at later
                exact @momentsHypothesis _ _ (number - 1) later laterSettled (by omega) (by omega)
          | fired =>
              obtain ⟨later, laterSettled⟩ := endsWithin_fired within settled
              rw [Moment.answers_fired] at enough
              exact @momentsHypothesis _ _ number later laterSettled (by omega) enough

end Supervision

namespace Read

variable {operation : Operation β} {conclude : Except Failure β -> Account α}
  {context : Context} {course : Course} {site : Site}

/-- A read ends once its operation was answered often enough besides the rows that it read. -/
theorem exists_account_of_rowCount
    {bound number : Nat}
    (within : operation.EndsWithin (some 0) bound)
    (few : Exchange.rowCount
      ((Read.awaiting operation conclude).conduct context course site).exchanges ≤ number)
    (enough : bound + number ≤ Moment.answers course.moments) :
    ∃ account,
      ((Read.awaiting operation conclude).conduct context course site).account? =
        some account := by
  cases checked : context.check course.sent course.now with
  | error failure => exact ⟨_, by simp [conduct, checked]; rfl⟩
  | ok =>
      simp only [conduct, checked] at few
      have startWithin : (Supervision.start operation site).operation.EndsWithin (some 0) bound :=
        within.settle site
      obtain ⟨outcome, ended⟩ := Supervision.ends_of_rowCount startWithin
        (operation.isSettled_settle site) few enough
      exact ⟨_, by simp [conduct, checked, Supervision.outcome?, ended]; rfl⟩

/-- A read that is served ends once its operation was answered often enough. -/
theorem exists_account_of_serve
    {bound : Nat}
    {rows : List Value}
    (within : operation.EndsWithin (some 0) bound)
    (serves : Exchange.Serve rows
      ((Read.awaiting operation conclude).conduct context course site).exchanges)
    (enough : bound + rows.length ≤ Moment.answers course.moments) :
    ∃ account,
      ((Read.awaiting operation conclude).conduct context course site).account? =
        some account :=
  exists_account_of_rowCount within serves.rowCount_le enough

end Read

section Reading

variable {judge : List Value -> Value -> Verdict} {kept : List Value} {ending : RowsEnd}
  {answers : List (Except Failure (Option Value))}

theorem Operation.Reading.of_end (reading : Reading judge kept (.ok none :: answers) ending) :
    ending = .exhausted kept := by
  cases reading
  rfl

theorem Operation.Reading.of_taken
    {row : Value}
    (reading : Reading judge kept (.ok (some row) :: answers) ending)
    (verdict : judge kept row = .take) :
    Reading judge (kept ++ [row]) answers ending := by
  cases reading with
  | take _ rest => exact rest
  | takeLast other => cases verdict.symm.trans other
  | refuse other => cases verdict.symm.trans other

end Reading

namespace Scan

/-- A first row among the replies is the first of the rows that are served. -/
theorem exists_of_served_row
    {row : Value}
    {rows : List Value}
    {replies : List (Option Value)}
    (inOrder : some row :: replies <+: rows.map some ++ [none]) :
    ∃ others, rows = row :: others ∧ replies <+: others.map some ++ [none] := by
  cases rows with
  | nil =>
      obtain ⟨same, -⟩ := List.cons_prefix_cons.mp inOrder
      cases same
  | cons first others =>
      obtain ⟨same, rest⟩ := List.cons_prefix_cons.mp inOrder
      cases same
      exact ⟨others, rfl, rest⟩

/-- A scan that is served sound rows reads all of them. -/
theorem exhausted_of_served
    {kept rows : List Value}
    {replies : List (Option Value)}
    {ending : RowsEnd}
    (reading : Reading judge kept (replies.map .ok) ending)
    (sound : ∀ row ∈ rows, Row.fault? row = none)
    (inOrder : replies <+: rows.map some ++ [none]) :
    ending = .exhausted (kept ++ rows) := by
  induction replies generalizing kept rows with
  | nil => cases reading
  | cons reply replies repliesHypothesis =>
      rw [List.map_cons] at reading
      cases reply with
      | none =>
          cases rows with
          | nil =>
              rw [List.append_nil]
              exact reading.of_end
          | cons first others =>
              obtain ⟨same, -⟩ := List.cons_prefix_cons.mp inOrder
              cases same
      | some row =>
          obtain ⟨others, rfl, rest⟩ := exists_of_served_row inOrder
          rw [List.forall_mem_cons] at sound
          have verdict : judge kept row = .take := by rw [judge_eq, sound.1]
          have whole := repliesHypothesis (reading.of_taken verdict) sound.2 rest
          rw [whole, List.append_assoc]
          rfl

end Scan

namespace Cursor

variable {isOpen left : Bool} {acts : List Act} {cursor : Cursor}

/-- Reading over any cursor asks for nothing but rows. -/
theorem ends_read
    {judge : List Value -> Value -> Verdict}
    {outcome : Except Failure (List Value)}
    (ends : Ends isOpen (cursor.read judge) acts outcome left) :
    left = isOpen ∧ ∃ answers ending report,
      Act.exchanges acts = answers.map Exchange.nextRow ∧
      Reading judge [] answers ending ∧ outcome = concludeRows report ending := by
  cases cursor with
  | direct =>
      obtain ⟨answers, ending, last, rfl, reading, lastEnds⟩ := Ends.reading ends
      have concluded : last = [] ∧ outcome = concludeRows id ending ∧ left = isOpen := by
        cases ending <;> exact ends_done_iff.mp lastEnds
      obtain ⟨rfl, rfl, rfl⟩ := concluded
      exact ⟨rfl, answers, ending, id, by simp, reading, rfl⟩
  | pooled connection statement prefetch =>
      obtain ⟨rfl, answers, ending, rfl, reading, rfl⟩ := ends_read_pooled ends
      exact ⟨rfl, answers, ending, _, by simp, reading, rfl⟩

/-- Closing succeeds when its requests are granted, and reads no row. -/
theorem ends_close_of_granted
    {outcome : Except Failure Unit}
    (usable : cursor = .direct ∨ isOpen)
    (ends : Ends isOpen cursor.close acts outcome left)
    (granted : ∀ exchange ∈ Act.exchanges acts, exchange.failure? = none) :
    outcome = .ok () ∧ Exchange.replies (Act.exchanges acts) = [] := by
  cases cursor with
  | direct =>
      obtain ⟨closed, rest, rfl, done⟩ := ends_call_iff.mp ends
      obtain ⟨rfl, rfl, rfl⟩ := ends_done_iff.mp done
      cases outcome with
      | ok => exact ⟨rfl, rfl⟩
      | error failure => cases granted ⟨.closeRows, .error failure⟩ (by simp)
  | pooled connection statement prefetch =>
      have opened : isOpen = true := usable.resolve_left nofun
      rw [opened] at ends
      obtain ⟨-, rolledBack, returned, rfl, rfl⟩ := ends_close_pooled ends
      cases rolledBack with
      | error failure => cases granted ⟨.rollback connection, .error failure⟩ (by simp)
      | ok =>
          cases returned with
          | error failure => cases granted ⟨.release connection, .error failure⟩ (by simp)
          | ok => exact ⟨rfl, by simp [Exchange.replies, Exchange.reply?]⟩

end Cursor

/-- Opening rows succeeds when its requests are granted, and reads no row. -/
theorem Executor.ends_openRows_of_granted
    {executor : Executor}
    {statement : Statement}
    {isOpen left : Bool}
    {acts : List Act}
    {outcome : Except Failure Cursor}
    (usable : executor = .direct ∨ isOpen)
    (ends : Ends isOpen (executor.openRows statement) acts outcome left)
    (granted : ∀ exchange ∈ Act.exchanges acts, exchange.failure? = none) :
    left = isOpen ∧ Exchange.replies (Act.exchanges acts) = [] ∧
      ∃ cursor, outcome = .ok cursor ∧ (cursor = .direct ∨ isOpen) := by
  cases executor with
  | direct =>
      obtain ⟨opened, rest, rfl, done⟩ := ends_call_iff.mp ends
      obtain ⟨rfl, rfl, rfl⟩ := ends_done_iff.mp done
      cases opened with
      | ok => exact ⟨rfl, rfl, .direct, rfl, .inl rfl⟩
      | error failure => cases granted ⟨.openRows statement, .error failure⟩ (by simp)
  | pooled prefetch =>
      have opened : isOpen = true := usable.resolve_left nofun
      rw [opened] at ends ⊢
      rcases ends_acquire_andThen ends with
        ⟨rfl, failure, rfl, rfl⟩ | ⟨connection, rest, rfl, starts⟩
      · cases granted ⟨.acquire, .error failure⟩ (by simp)
      · obtain ⟨rfl, begun, later, rfl, begins⟩ := ends_startTransaction starts
        cases begun with
        | error failure => cases granted ⟨.beginTransaction connection, .error failure⟩ (by simp)
        | ok =>
            obtain ⟨rfl, rfl⟩ := begins
            exact ⟨rfl, by simp [Exchange.replies, Exchange.reply?], _, rfl, .inr rfl⟩

namespace Repository

/-- A search that is served sound rows ends in the page of all of them. -/
theorem outcome_of_serve
    {repository : Repository}
    {statement : Statement}
    {isOpen left : Bool}
    {acts : List Act}
    {outcome : Except Failure Page}
    {rows : List Value}
    (usable : repository.executor = .direct ∨ isOpen)
    (ends : Ends isOpen (repository.searchOperation statement) acts outcome left)
    (serves : Exchange.Serve rows (Act.exchanges acts))
    (sound : ∀ row ∈ rows, Row.fault? row = none) :
    ∃ page, outcome = .ok page ∧
      (rows.map fun row => Row.decode row "") = page.instances.map .ok ∧
      Scan.CountsLast rows (.count 0) page.total := by
  have granted := serves.granted
  have inOrder := serves.inOrder
  rcases ends_andThen_iff.mp ends with
    ⟨failure, opens, -⟩ | ⟨opening, scanning, cursor, between, rfl, opens, scans⟩
  · obtain ⟨-, -, cursor, opened, -⟩ := Executor.ends_openRows_of_granted usable opens granted
    cases opened
  · rw [Act.exchanges_append, List.forall_mem_append] at granted
    obtain ⟨rfl, noneOpening, _, opened, cursorUsable⟩ :=
      Executor.ends_openRows_of_granted usable opens granted.1
    cases opened
    obtain ⟨reading, closing, read, closed, middle, rfl, reads, closes, rfl⟩ :=
      Scan.ends_run scans
    obtain ⟨rfl, answers, ending, report, word, readingEnds, rfl⟩ := Cursor.ends_read reads
    rw [Act.exchanges_append, List.forall_mem_append] at granted
    obtain ⟨rfl, noneClosing⟩ := Cursor.ends_close_of_granted cursorUsable closes granted.2.2
    have grantedReading := granted.2.1
    rw [word] at grantedReading
    obtain ⟨replies, rfl⟩ := Exchange.exists_replies grantedReading
    rw [Act.exchanges_append, Act.exchanges_append, Exchange.replies_append,
      Exchange.replies_append, noneOpening, noneClosing, word, Exchange.replies_nextRow,
      List.nil_append, List.append_nil] at inOrder
    rw [Scan.exhausted_of_served readingEnds sound inOrder]
    obtain ⟨instances, count, folded, decodes, counts⟩ := Scan.foldlM_addTo sound {}
    refine ⟨{ instances, total := count }, ?_, decodes, counts⟩
    have collected : Scan.page rows = .ok { instances, total := count } := folded
    simp only [Cursor.concludeRows, List.nil_append, Except.bind, collected]
    rfl

end Repository
end InstanceDirectory
