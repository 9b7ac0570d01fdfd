import InstanceDirectory.Proofs.Conduct
import InstanceDirectory.Proofs.Lending

/-!
# Closing a cursor

A cursor over the pool owns a connection and a transaction on it.  Its holder may read rows as
often as wanted and close it as often as wanted.  The first closing ends the transaction and
gives the connection back, whatever comes of either, and no other call does any of the two.
-/

namespace InstanceDirectory

open Operation

/-- A call on a cursor in the hands of a caller. -/
inductive CursorCall where
  /-- Read rows from the start on, until they end or the judge has enough. -/
  | read (judge : List Value -> Value -> Verdict)
  | close

namespace CursorCall

/-- What a call answers. -/
abbrev Reply : CursorCall -> Type
  | read _ => List Value
  | close => Unit

/-- The operation that a call carries out. -/
def operation (handle : CursorHandle) : (call : CursorCall) -> Operation call.Reply
  | read judge => handle.cursor.read judge
  | close => handle.close.2

/-- The cursor in the hands of its caller from the start of a call on. -/
def handleAfter (handle : CursorHandle) : CursorCall -> CursorHandle
  | read _ => handle
  | close => handle.close.1

/-- The call closes the cursor. -/
def isClose : CursorCall -> Bool
  | read _ => false
  | close => true

end CursorCall

/-- A call on a cursor with what happens while it runs. -/
structure CursorTurn where
  /-- The call. -/
  call : CursorCall
  /-- The answers that the driver gives, and interruptions. -/
  moments : List Moment

namespace CursorTurn

/-- The call at its start. -/
def running (turn : CursorTurn) (handle : CursorHandle) (site : Site) :
    Supervision turn.call.Reply :=
  .start (turn.call.operation handle) site

/-- The call after everything that happens. -/
def ended (turn : CursorTurn) (handle : CursorHandle) (site : Site) :
    Supervision turn.call.Reply :=
  (turn.running handle site).after turn.moments

/-- What the driver was asked for, and answered. -/
def exchanges (turn : CursorTurn) (handle : CursorHandle) (site : Site) : List Exchange :=
  (turn.running handle site).exchanges turn.moments

/--
Calls on a cursor that are made one after the other, each run to its end before the next, with
their exchanges.
-/
inductive Run :
    CursorHandle -> Site -> List CursorTurn -> List Exchange -> CursorHandle -> Site -> Prop where
  | nil (handle : CursorHandle) (site : Site) : Run handle site [] [] handle site
  | cons {handle last : CursorHandle} {site later : Site} {turn : CursorTurn}
      {turns : List CursorTurn} {exchanges : List Exchange}
      {outcome : Except Failure turn.call.Reply} :
      (turn.ended handle site).operation.outcome? = some outcome ->
      Run (turn.call.handleAfter handle) (turn.ended handle site).site turns exchanges last later ->
      Run handle site (turn :: turns) (turn.exchanges handle site ++ exchanges) last later

end CursorTurn

namespace Exchange

/-- The driver was asked for the next row. -/
def isRow : Exchange -> Bool
  | ⟨.nextRow, _⟩ => true
  | _ => false

/-- The exchanges besides those for rows. -/
def besideRows (exchanges : List Exchange) : List Exchange :=
  exchanges.filter fun exchange => !exchange.isRow

theorem besideRows_append (first second : List Exchange) :
    besideRows (first ++ second) = besideRows first ++ besideRows second :=
  List.filter_append first second

@[simp] theorem besideRows_nextRow (answers : List (Except Failure (Option Value))) :
    besideRows (answers.map nextRow) = [] := by
  simp [besideRows, nextRow, isRow]

end Exchange

/--
The transaction was ended and its connection given back, each once and in this order.  A
connection that was not taken back decides the outcome, before the transaction.
-/
structure Cursor.GivesBack
    (statement : Statement) (connection : Connection) (exchanges : List Exchange)
    (remarks : List Notice) (outcome : Except Failure Unit) : Prop where
  asked : ∃ rolledBack returned,
    exchanges = [⟨.rollback connection, rolledBack⟩, ⟨.release connection, returned⟩] ∧
    remarks = Act.remarks (Pool.recordAnswer .returned .returnFailed returned) ∧
    (∀ failure, returned = .error failure -> outcome = .error (
      if failure.isDriver then
        .connection ("Cannot release connection: " ++ failure.message) (some failure)
      else failure)) ∧
    (returned = .ok () -> ∀ failure, rolledBack = .error failure -> outcome = .error (
      if failure.isDriver then
        .execution ("Closing rows failed: " ++ failure.message) statement.text failure
      else failure)) ∧
    (returned = .ok () -> rolledBack = .ok () -> outcome = .ok ())

section Pooled

variable {connection : Connection} {statement : Statement} {prefetch : Int}

/-- Rows that are open over the pool are read over the connection that was borrowed for them. -/
theorem Executor.eq_pooled_of_ends_openRows
    {isOpen left : Bool}
    {acts : List Act}
    {cursor : Cursor}
    (ends : Ends isOpen ((Executor.pooled prefetch).openRows statement) acts (.ok cursor) left) :
    left = true ∧ ∃ connection, cursor = .pooled connection statement prefetch ∧
      Act.exchanges acts = [⟨.acquire, .ok connection⟩, ⟨.beginTransaction connection, .ok ()⟩] := by
  cases isOpen with
  | false =>
      -- A closed pool lends nothing.
      rcases ends_andThen_iff.mp ends with ⟨failure, -, failed⟩ | ⟨_, _, _, _, -, borrowing, -⟩
      · cases failed
      · obtain ⟨-, refused, -⟩ := Pool.ends_acquire_closed_iff.mp borrowing
        cases refused
  | true =>
      rcases ends_acquire_andThen ends with
        ⟨-, failure, -, failed⟩ | ⟨connection, rest, rfl, starting⟩
      · cases failed
      · obtain ⟨rfl, failure | _, rest, rfl, begun⟩ := ends_startTransaction starting
        · obtain ⟨⟨final, failed⟩, -⟩ := begun
          cases failed
        · obtain ⟨rfl, isCursor⟩ := begun
          cases isCursor
          exact ⟨rfl, connection, rfl, rfl⟩

/-- The first closing of a cursor gives its connection back, however the closing ends. -/
theorem Cursor.givesBack_of_ends
    {left : Bool}
    {acts : List Act}
    {outcome : Except Failure Unit}
    (ends : Ends true (Cursor.pooled connection statement prefetch).close acts outcome left) :
    left = true ∧
      GivesBack statement connection (Act.exchanges acts) (Act.remarks acts) outcome := by
  obtain ⟨rfl, rolledBack, returned, rfl, rfl⟩ := ends_close_pooled ends
  refine ⟨rfl, rolledBack, returned, by simp, rfl, ?_, ?_, ?_⟩
  · rintro failure rfl
    rfl
  · rintro rfl failure rfl
    rfl
  · rintro rfl rfl
    rfl

namespace CursorTurn

variable {isClosed : Bool} {site later : Site} {turn : CursorTurn} {turns : List CursorTurn}
  {exchanges : List Exchange} {last : CursorHandle}

/-- A call leaves the pool open, and only the first closing asks for more than rows. -/
theorem comes_of_outcome?
    {outcome : Except Failure turn.call.Reply}
    (isOpen : site.isOpen = true)
    (isEnd : (turn.ended ⟨.pooled connection statement prefetch, isClosed⟩ site).operation.outcome? =
      some outcome) :
    let handle : CursorHandle := ⟨.pooled connection statement prefetch, isClosed⟩
    (turn.ended handle site).site.isOpen = true ∧
    turn.call.handleAfter handle = { handle with isClosed := isClosed || turn.call.isClose } ∧
    if !isClosed && turn.call.isClose then
      ∃ rolledBack returned, Exchange.besideRows (turn.exchanges handle site) =
        [⟨.rollback connection, rolledBack⟩, ⟨.release connection, returned⟩]
    else Exchange.besideRows (turn.exchanges handle site) = [] := by
  intro handle
  obtain ⟨acts, ends, exchanged, -⟩ := Supervision.ends_of_outcome? isEnd
  rw [isOpen] at ends
  rw [exchanges, running, ← exchanged]
  obtain ⟨call, moments⟩ := turn
  cases call with
  | read judge =>
      obtain ⟨left, answers, ending, rfl, -, -⟩ := Cursor.ends_read_pooled ends
      exact ⟨left, by simp [CursorCall.handleAfter, CursorCall.isClose, handle],
        by simp [CursorCall.isClose]⟩
  | close =>
      cases isClosed with
      | true =>
          obtain ⟨rfl, -, left⟩ := ends_succeed_iff.mp ends
          exact ⟨left, rfl, rfl⟩
      | false =>
          have closing : Ends true (Cursor.pooled connection statement prefetch).close acts
              outcome _ := ends
          obtain ⟨left, rolledBack, returned, asked, -⟩ := Cursor.givesBack_of_ends closing
          refine ⟨left, rfl, rolledBack, returned, ?_⟩
          rw [asked]
          rfl

/-- However many calls are made, the first closing among them is the only one to give back. -/
theorem Run.besideRows
    (run : Run ⟨.pooled connection statement prefetch, isClosed⟩ site turns exchanges last later)
    (isOpen : site.isOpen = true) :
    let closes := turns.any fun turn => turn.call.isClose
    later.isOpen = true ∧
    last = ⟨.pooled connection statement prefetch, isClosed || closes⟩ ∧
    if !isClosed && closes then
      ∃ rolledBack returned, Exchange.besideRows exchanges =
        [⟨.rollback connection, rolledBack⟩, ⟨.release connection, returned⟩]
    else Exchange.besideRows exchanges = [] := by
  generalize begun : (⟨.pooled connection statement prefetch, isClosed⟩ : CursorHandle) = handle
    at run
  induction run generalizing isClosed with
  | nil handle site =>
      subst begun
      exact ⟨isOpen, by simp, by simp [Exchange.besideRows]⟩
  | @cons handle last site later turn turns exchanges outcome isEnd run turnsHypothesis =>
      subst begun
      obtain ⟨stillOpen, next, asked⟩ := comes_of_outcome? isOpen isEnd
      obtain ⟨leftOpen, isLast, askedLater⟩ := turnsHypothesis stillOpen next.symm
      refine ⟨leftOpen, by rw [isLast, List.any_cons, Bool.or_assoc], ?_⟩
      rw [Exchange.besideRows_append]
      -- At most one of the two parts of the run holds the first closing.
      cases isClosed <;> cases closing : turn.call.isClose <;>
        simp only [closing, Bool.not_true, Bool.not_false, Bool.true_and, Bool.false_and,
          Bool.false_or, Bool.true_or, Bool.or_false, Bool.or_true, Bool.false_eq_true, if_false,
          if_true, List.any_cons] at asked askedLater ⊢
      case false.false => simpa only [asked, List.nil_append] using askedLater
      case false.true =>
        obtain ⟨rolledBack, returned, asked⟩ := asked
        exact ⟨rolledBack, returned, by rw [asked, askedLater, List.append_nil]⟩
      case true.false => rw [asked, askedLater, List.append_nil]
      case true.true => rw [asked, askedLater, List.append_nil]

end CursorTurn

namespace CursorHandle

variable {handle : CursorHandle} {site : Site}

/-- A cursor that was closed before is closed at once, and leaves everything as it is. -/
theorem close_again
    (closed : handle.isClosed = true)
    (site : Site)
    (moments : List Moment) :
    let closing := Supervision.start handle.close.2 site
    (closing.after moments).operation.outcome? = some (.ok ()) ∧
    closing.exchanges moments = [] ∧ (closing.after moments).site = site := by
  intro closing
  have atOnce : closing = { operation := .done (.ok ()), site } := by
    simp only [closing, CursorHandle.close, if_pos closed]
    rfl
  have isEnd : closing.operation.outcome? = some (.ok ()) := by rw [atOnce]; rfl
  rw [Supervision.after_of_outcome? isEnd]
  exact ⟨isEnd, Supervision.exchanges_of_outcome? isEnd moments, congrArg Supervision.site atOnce⟩

/-- A cursor that was not closed before gives its connection back. -/
theorem close_first
    (unclosed : handle.isClosed = false)
    (pooled : handle.cursor = .pooled connection statement prefetch)
    (isOpen : site.isOpen = true)
    (moments : List Moment) :
    let closing := Supervision.start handle.close.2 site
    (2 ≤ Moment.answers moments ->
      ∃ outcome, (closing.after moments).operation.outcome? = some outcome) ∧
    ∀ outcome, (closing.after moments).operation.outcome? = some outcome ->
      ∃ remarks, (closing.after moments).site.remarks = site.remarks ++ remarks ∧
        Cursor.GivesBack statement connection (closing.exchanges moments) remarks outcome := by
  intro closing
  have first : handle.close.2 = (Cursor.pooled connection statement prefetch).close := by
    rw [CursorHandle.close, unclosed, pooled]
    rfl
  refine ⟨fun enough => ?_, fun outcome isEnd => ?_⟩
  · refine Supervision.ends_of_answers ?_ (isSettled_settle handle.close.2 site) enough
    have within : EndsWithin none handle.close.2 2 := by
      rw [first]
      exact Cursor.close_endsWithin _
    exact within.settle site
  · obtain ⟨acts, ends, exchanged, remarked⟩ := Supervision.ends_of_outcome? isEnd
    rw [isOpen, first] at ends
    obtain ⟨-, givesBack⟩ := Cursor.givesBack_of_ends ends
    exact ⟨Act.remarks acts, remarked, exchanged ▸ givesBack⟩

end CursorHandle

end Pooled

/--
A cursor that was opened over the pool gives back what was borrowed for it exactly once.  It is
closed from its first closing on, and among everything that is asked for by any calls on it the
end of its transaction and the return of its connection occur once, in this order, if it was
closed at all, and not otherwise.  The next closing gives them back if no closing went before
it, also when the driver fails or the closing is interrupted, and it then ends with two answers;
after an earlier closing it ends at once, asks for nothing, records nothing and succeeds.
-/
theorem cursor_givesBack_once
    {prefetch : Int}
    {statement : Statement}
    {site later : Site}
    {moments : List Moment}
    {cursor : Cursor}
    {turns : List CursorTurn}
    {exchanges : List Exchange}
    {handle : CursorHandle}
    (isOpened : ((Supervision.start ((Executor.pooled prefetch).openRows statement) site).after
      moments).operation.outcome? = some (.ok cursor))
    (run : CursorTurn.Run { cursor }
      ((Supervision.start ((Executor.pooled prefetch).openRows statement) site).after moments).site
      turns exchanges handle later) :
    ∃ connection,
      (Supervision.start ((Executor.pooled prefetch).openRows statement) site).exchanges moments =
        [⟨.acquire, .ok connection⟩, ⟨.beginTransaction connection, .ok ()⟩] ∧
      handle.isClosed = (turns.any fun turn => turn.call.isClose) ∧
      (if handle.isClosed then
        ∃ rolledBack returned, Exchange.besideRows exchanges =
          [⟨.rollback connection, rolledBack⟩, ⟨.release connection, returned⟩]
      else Exchange.besideRows exchanges = []) ∧
      ∀ closingMoments : List Moment,
        let closing := Supervision.start handle.close.2 later
        let ended := closing.after closingMoments
        handle.close.1 = { handle with isClosed := true } ∧
        if handle.isClosed then
          ended.operation.outcome? = some (.ok ()) ∧ closing.exchanges closingMoments = [] ∧
          ended.site = later
        else
          (2 ≤ Moment.answers closingMoments ->
            ∃ outcome, ended.operation.outcome? = some outcome) ∧
          (∀ exchange ∈ closing.exchanges closingMoments,
            (∃ answerer, .answered answerer ∈ closingMoments ∧
              exchange.answer = answerer exchange.request) ∨
            (exchange.answer = .error .interrupted ∧ ended.fired)) ∧
          ∀ outcome, ended.operation.outcome? = some outcome ->
            ∃ remarks, ended.site.remarks = later.remarks ++ remarks ∧
              Cursor.GivesBack statement connection (closing.exchanges closingMoments) remarks
                outcome := by
  obtain ⟨acts, opening, opened, -⟩ := Supervision.ends_of_outcome? isOpened
  obtain ⟨isOpen, connection, rfl, borrowed⟩ := Executor.eq_pooled_of_ends_openRows opening
  obtain ⟨leftOpen, rfl, asked⟩ := run.besideRows isOpen
  refine ⟨connection, opened ▸ borrowed, Bool.false_or _, by simpa using asked, ?_⟩
  intro closingMoments closing ended
  refine ⟨rfl, ?_⟩
  split
  case isTrue closed => exact CursorHandle.close_again closed later closingMoments
  case isFalse unclosed =>
    obtain ⟨endsAfterTwo, givesBack⟩ :=
      CursorHandle.close_first (Bool.eq_false_iff.mpr unclosed) rfl leftOpen closingMoments
    exact ⟨endsAfterTwo, fun _ => Supervision.answered_or_interrupted, givesBack⟩

/-- A driver that lends and takes back, has no rows and cannot end a transaction. -/
def Answerer.failingRollback : Answerer
  | .rollback _ => .error { kind := .driver .interface, message := "gone" }
  | request => granting .null request

/-- After a reading, a transaction that cannot be ended does not keep its connection. -/
theorem cursor_givesBack_once_failing :
    let statement : Statement := { text := "SELECT $1", arguments := [.int 7] }
    let opening := Supervision.start ((Executor.pooled 50).openRows statement) { isOpen := true }
    let opened := opening.after (List.replicate 2 (.answered .failingRollback))
    let handle : CursorHandle := { cursor := .pooled 1 statement 50 }
    let reading : CursorTurn := ⟨.read Scan.judge, [.answered .failingRollback]⟩
    let closing := Supervision.start handle.close.2 (reading.ended handle opened.site).site
    let moments := List.replicate 2 (.answered .failingRollback)
    ∃ failure remarks,
      (closing.after moments).operation.outcome? = some (.error failure) ∧
      failure.message = "Closing rows failed: gone" ∧
      Cursor.GivesBack statement 1 (closing.exchanges moments) remarks (.error failure) := by
  intro statement opening opened handle reading closing moments
  have isOpened : opened.operation.outcome? = some (.ok (.pooled 1 statement 50)) := rfl
  have isRead : (reading.ended handle opened.site).operation.outcome? = some (.ok []) := rfl
  have run := CursorTurn.Run.cons isRead (.nil handle _)
  obtain ⟨connection, borrowed, -, -, closes⟩ := cursor_givesBack_once isOpened run
  obtain rfl : connection = 1 := by
    cases borrowed
    rfl
  obtain ⟨-, -, -, ends⟩ := closes moments
  obtain ⟨remarks, -, givesBack⟩ := ends _ rfl
  exact ⟨_, remarks, rfl, rfl, givesBack⟩

end InstanceDirectory
