import InstanceDirectory.Proofs.Conduct
import InstanceDirectory.Proofs.Lending

/-!
# Tracking the driver's pool

The connection pool is open exactly while the driver has a pool for it.  Every call asks the
driver for at most one thing, and the pool is opened or closed only by an answer that says
so: a failure leaves it as it was, and the next call of the same kind asks again.  What one
call keeps in balance, calls made one after the other keep in balance, however many there are
and whatever the driver answers to them.
-/

namespace InstanceDirectory

open Operation

/-- A call on the connection pool. -/
inductive PoolCall where
  | establish
  | acquire
  | release (connection : Connection)
  | close

/-- How a call reports a failure of the driver. -/
structure FailureReport where
  /-- What comes before the message of the driver. -/
  prelude : String
  /-- The event that is recorded. -/
  event : Failure -> PoolEvent

namespace PoolCall

/-- What a call answers. -/
abbrev Reply : PoolCall -> Type
  | acquire => Connection
  | _ => Unit

/-- The operation that a call carries out. -/
def operation (settings : DatabaseSettings) : (call : PoolCall) -> Operation call.Reply
  | establish => Pool.establish settings
  | acquire => Pool.acquire
  | release connection => Pool.release connection
  | close => Pool.close

/--
The request that a call makes of the driver: a closed pool can only be opened, and an open
one can do everything else.
-/
def request? (settings : DatabaseSettings) (isOpen : Bool) : PoolCall -> Option Request
  | establish =>
      if isOpen then none else (Pool.request settings).toOption.map .createPool
  | acquire => if isOpen then some .acquire else none
  | release connection => if isOpen then some (.release connection) else none
  | close => if isOpen then some .closePool else none

/-- How a call reports a failure of the driver, unless it passes the failure on. -/
def report? : PoolCall -> Option FailureReport
  | establish => some ⟨"Failed to initialize connection pool: ", .openFailed⟩
  | acquire => some ⟨"Cannot acquire connection: ", .acquireFailed⟩
  | release _ => some ⟨"Cannot release connection: ", .returnFailed⟩
  | close => none

end PoolCall

namespace Exchange

/-- The driver has created a pool. -/
def isCreation : Exchange -> Bool
  | ⟨.createPool _, .ok _⟩ => true
  | _ => false

/-- The driver has closed its pool. -/
def isClosing : Exchange -> Bool
  | ⟨.closePool, .ok _⟩ => true
  | _ => false

end Exchange

/--
Exchanges take a pool from one state to another: it is open as often as the driver has
created more pools than it has closed.
-/
def Balances (found : Bool) (exchanges : List Exchange) (left : Bool) : Prop :=
  exchanges.countP Exchange.isCreation + found.toNat =
    exchanges.countP Exchange.isClosing + left.toNat

namespace Balances

theorem refl (isOpen : Bool) : Balances isOpen [] isOpen := rfl

theorem trans
    {first second third : Bool}
    {before after : List Exchange}
    (earlier : Balances first before second)
    (later : Balances second after third) :
    Balances first (before ++ after) third := by
  unfold Balances at *
  rw [List.countP_append, List.countP_append]
  omega

end Balances

/-- What a call has come to when it has ended. -/
structure PoolCall.Comes
    (settings : DatabaseSettings) (call : PoolCall) (found : Bool)
    (acts : List Act) (outcome : Except Failure call.Reply) (left : Bool) : Prop where
  /-- The driver was asked for what the call is for, if anything. -/
  asks : (Act.exchanges acts).map Exchange.request = (call.request? settings found).toList
  /-- The pool is open if the driver has one. -/
  balances : Balances found (Act.exchanges acts) left
  /-- A closed pool lends nothing. -/
  refuses : call = .acquire -> found = false -> outcome = .error Pool.notOpen
  /-- A failure leaves the pool as it was. -/
  stays : ∀ exchange ∈ Act.exchanges acts, ∀ failure,
    exchange.answer = .error failure -> left = found
  /-- A failure of the driver is reported as one of the connection, and recorded once. -/
  reports : ∀ exchange ∈ Act.exchanges acts, ∀ failure,
    exchange.answer = .error failure -> failure.isDriver ->
    ∀ report, call.report? = some report ->
      outcome = .error (.connection (report.prelude ++ failure.message) (some failure)) ∧
      Act.remarks acts = [.logged (report.event failure).entry]

namespace Pool

variable {request : Request} {answer : Except Failure request.Reply} {exchange : Exchange}

/-- The only exchange of a recorded request. -/
theorem eq_of_mem_recorded
    {done : PoolEvent}
    {failed : Failure -> PoolEvent}
    (happened : exchange ∈ Act.exchanges
      (.exchanged ⟨request, answer⟩ :: recordAnswer done failed answer)) :
    exchange = ⟨request, answer⟩ := by
  simpa using happened

/-- What comes of a recorded request that the driver fails. -/
theorem reports_of_recorded
    {done : PoolEvent}
    {failed : Failure -> PoolEvent}
    {prelude : String}
    {failure : Failure}
    (happened : exchange ∈ Act.exchanges
      (.exchanged ⟨request, answer⟩ :: recordAnswer done failed answer))
    (isFailure : exchange.answer = .error failure)
    (ofDriver : failure.isDriver) :
    answer.mapError (surface prelude) =
      .error (.connection (prelude ++ failure.message) (some failure)) ∧
    Act.remarks (.exchanged ⟨request, answer⟩ :: recordAnswer done failed answer) =
      [.logged (failed failure).entry] := by
  obtain rfl := eq_of_mem_recorded happened
  obtain rfl : answer = .error failure := isFailure
  constructor
  · have surfaced : surface prelude failure =
        .connection (prelude ++ failure.message) (some failure) := by
      rw [surface, if_pos ofDriver]
    exact congrArg Except.error surfaced
  · simp only [recordAnswer, recordFailure, ofDriver, if_true]
    rfl

end Pool

namespace PoolCall

variable {settings : DatabaseSettings} {found left : Bool} {acts : List Act}

/-- A call that asks for nothing leaves the pool as it found it. -/
theorem comes_of_request?_eq_none
    {call : PoolCall}
    {outcome : Except Failure call.Reply}
    (asksNothing : call.request? settings found = none)
    (refuses : call = .acquire -> found = false -> outcome = .error Pool.notOpen) :
    call.Comes settings found [] outcome found where
  asks := by rw [asksNothing, Act.exchanges_nil, List.map_nil, Option.toList_none]
  balances := .refl found
  refuses := refuses
  stays _ happened := absurd happened List.not_mem_nil
  reports _ happened := absurd happened List.not_mem_nil

theorem comes_of_ends_establish
    {outcome : Except Failure Unit}
    (ends : Ends found (Pool.establish settings) acts outcome left) :
    establish.Comes settings found acts outcome left := by
  cases found with
  | true =>
      obtain ⟨rfl, rfl, rfl⟩ := Pool.ends_establish_open_iff.mp ends
      exact comes_of_request?_eq_none rfl nofun
  | false =>
      have asked := Pool.ends_establish_iff.mp ends
      cases requested : Pool.request settings with
      | error failure =>
          simp only [requested] at asked
          obtain ⟨rfl, rfl, rfl⟩ := asked
          have asksNothing : establish.request? settings false = none := by
            simp [request?, requested, Except.toOption]
          exact comes_of_request?_eq_none asksNothing nofun
      | ok request =>
          simp only [requested] at asked
          obtain ⟨answer, rfl, rfl, rfl⟩ := asked
          refine ⟨by simp [request?, requested, Except.toOption], ?_, nofun, ?_, ?_⟩
          · cases answer <;> simp [Balances, Exchange.isCreation, Exchange.isClosing, Except.isOk,
              Except.toBool]
          · intro exchange happened failure isFailure
            obtain rfl := Pool.eq_of_mem_recorded happened
            obtain rfl : answer = .error failure := isFailure
            rfl
          · rintro exchange happened failure isFailure ofDriver report ⟨⟩
            exact Pool.reports_of_recorded happened isFailure ofDriver

theorem comes_of_ends_acquire
    {outcome : Except Failure Connection}
    (ends : Ends found Pool.acquire acts outcome left) :
    acquire.Comes settings found acts outcome left := by
  cases found with
  | false =>
      obtain ⟨rfl, rfl, rfl⟩ := Pool.ends_acquire_closed_iff.mp ends
      exact comes_of_request?_eq_none rfl fun _ _ => rfl
  | true =>
      obtain ⟨rfl, answer, rfl, rfl⟩ := Pool.ends_acquire_iff.mp ends
      refine ⟨by simp [request?], ?_, nofun, fun _ _ _ _ => rfl, ?_⟩
      · simp [Balances, Exchange.isCreation, Exchange.isClosing]
      · rintro exchange happened failure isFailure ofDriver report ⟨⟩
        exact Pool.reports_of_recorded happened isFailure ofDriver

theorem comes_of_ends_release
    {connection : Connection}
    {outcome : Except Failure Unit}
    (ends : Ends found (Pool.release connection) acts outcome left) :
    (release connection).Comes settings found acts outcome left := by
  cases found with
  | false =>
      obtain ⟨rfl, rfl, rfl⟩ := Pool.ends_release_closed_iff.mp ends
      exact comes_of_request?_eq_none rfl nofun
  | true =>
      obtain ⟨rfl, answer, rfl, rfl⟩ := Pool.ends_release_iff.mp ends
      refine ⟨by simp [request?], ?_, nofun, fun _ _ _ _ => rfl, ?_⟩
      · simp [Balances, Exchange.isCreation, Exchange.isClosing]
      · rintro exchange happened failure isFailure ofDriver report ⟨⟩
        exact Pool.reports_of_recorded happened isFailure ofDriver

theorem comes_of_ends_close
    {outcome : Except Failure Unit}
    (ends : Ends found Pool.close acts outcome left) :
    close.Comes settings found acts outcome left := by
  cases found with
  | false =>
      obtain ⟨rfl, rfl, rfl⟩ := Pool.ends_close_closed_iff.mp ends
      exact comes_of_request?_eq_none rfl nofun
  | true =>
      have noReport (report : FailureReport) : PoolCall.close.report? ≠ some report := nofun
      obtain ⟨failure | _, rfl, rfl, rfl⟩ := Pool.ends_close_iff.mp ends
      · exact ⟨rfl, rfl, nofun, fun _ _ _ _ => rfl,
          fun _ _ _ _ _ report isReport => absurd isReport (noReport report)⟩
      · refine ⟨rfl, rfl, nofun, ?_,
          fun _ _ _ _ _ report isReport => absurd isReport (noReport report)⟩
        intro exchange happened failure isFailure
        obtain rfl := List.mem_singleton.mp happened
        cases isFailure

/-- Whatever a call is and whatever the driver answers, this is what it comes to. -/
theorem comes_of_ends
    {call : PoolCall}
    {outcome : Except Failure call.Reply}
    (ends : Ends found (call.operation settings) acts outcome left) :
    call.Comes settings found acts outcome left := by
  cases call with
  | establish => exact comes_of_ends_establish ends
  | acquire => exact comes_of_ends_acquire ends
  | release connection => exact comes_of_ends_release ends
  | close => exact comes_of_ends_close ends

/-- One answer brings every call to its end. -/
theorem operation_endsWithin {most : Option Nat} (call : PoolCall) :
    EndsWithin most (call.operation settings) 1 := by
  cases call with
  | establish => exact Pool.establish_endsWithin settings
  | acquire => exact Pool.acquire_endsWithin
  | release connection => exact Pool.release_endsWithin connection
  | close => exact Pool.close_endsWithin

end PoolCall

/-- A call on the pool with what happens while it runs. -/
structure PoolTurn where
  /-- The call. -/
  call : PoolCall
  /-- The answers that the driver gives, and interruptions. -/
  moments : List Moment

namespace PoolTurn

variable {settings : DatabaseSettings}

/-- The call at its start. -/
def running (settings : DatabaseSettings) (turn : PoolTurn) (site : Site) :
    Supervision turn.call.Reply :=
  .start (turn.call.operation settings) site

/-- The call after everything that happens. -/
def ended (settings : DatabaseSettings) (turn : PoolTurn) (site : Site) :
    Supervision turn.call.Reply :=
  (turn.running settings site).after turn.moments

/-- What the driver was asked for, and answered. -/
def exchanges (settings : DatabaseSettings) (turn : PoolTurn) (site : Site) : List Exchange :=
  (turn.running settings site).exchanges turn.moments

/--
Calls that are made one after the other, each run to its end before the next, with their
exchanges.
-/
inductive Run (settings : DatabaseSettings) :
    Site -> List PoolTurn -> List Exchange -> Site -> Prop where
  | nil (site : Site) : Run settings site [] [] site
  | cons {site later : Site} {turn : PoolTurn} {turns : List PoolTurn}
      {exchanges : List Exchange} {outcome : Except Failure turn.call.Reply} :
      (turn.ended settings site).operation.outcome? = some outcome ->
      Run settings (turn.ended settings site).site turns exchanges later ->
      Run settings site (turn :: turns) (turn.exchanges settings site ++ exchanges) later

/-- A call that is answered once ends. -/
theorem exists_outcome
    {turn : PoolTurn}
    (answered : 1 ≤ Moment.answers turn.moments)
    (site : Site) :
    ∃ outcome, (turn.ended settings site).operation.outcome? = some outcome :=
  Supervision.ends_of_answers ((turn.call.operation_endsWithin).settle site)
    ((turn.call.operation settings).isSettled_settle site) answered

/-- A call that has ended has come to what calls come to. -/
theorem exists_comes
    {turn : PoolTurn}
    {site : Site}
    {outcome : Except Failure turn.call.Reply}
    (isEnd : (turn.ended settings site).operation.outcome? = some outcome) :
    ∃ acts, Act.exchanges acts = turn.exchanges settings site ∧
      (turn.ended settings site).site.remarks = site.remarks ++ Act.remarks acts ∧
      turn.call.Comes settings site.isOpen acts outcome
        (turn.ended settings site).site.isOpen := by
  obtain ⟨acts, ends, exchanged, remarked⟩ := Supervision.ends_of_outcome? isEnd
  exact ⟨acts, exchanged, remarked, PoolCall.comes_of_ends ends⟩

/-- Every run of calls keeps what each call keeps. -/
theorem Run.balances
    {site later : Site}
    {turns : List PoolTurn}
    {exchanges : List Exchange}
    (run : Run settings site turns exchanges later) :
    Balances site.isOpen exchanges later.isOpen := by
  induction run with
  | nil site => exact .refl site.isOpen
  | cons isEnd _ laterBalances =>
      obtain ⟨acts, exchanged, -, comes⟩ := exists_comes isEnd
      exact (exchanged ▸ comes.balances).trans laterBalances

end PoolTurn

/--
However calls on a closed pool went on so far, the driver has created one pool more than it
has closed exactly when the pool is open, and otherwise as many.  The next call ends once it
is answered, and asks the driver for what it is for: nothing, when a pool that is open is to
be opened or one that is closed is to lend, take back or close.  A failure leaves the pool
open or closed as it was, so that the same call asks for the same thing again, and a closed
pool refuses to lend.  A failure of the driver to create, lend or take back becomes one of the
connection with itself as the cause, and is recorded once.
-/
theorem pool_tracks_driver
    {settings : DatabaseSettings}
    {site later : Site}
    {turns : List PoolTurn}
    {exchanges : List Exchange}
    (closed : site.isOpen = false)
    (run : PoolTurn.Run settings site turns exchanges later) :
    exchanges.countP Exchange.isCreation =
      exchanges.countP Exchange.isClosing + (if later.isOpen then 1 else 0) ∧
    ∀ turn : PoolTurn,
      let ended := turn.ended settings later
      let asked := turn.exchanges settings later
      (1 ≤ Moment.answers turn.moments ->
        ∃ outcome, ended.operation.outcome? = some outcome) ∧
      ∀ outcome, ended.operation.outcome? = some outcome ->
        asked.map Exchange.request = (turn.call.request? settings later.isOpen).toList ∧
        (turn.call = .acquire -> later.isOpen = false -> outcome = .error Pool.notOpen) ∧
        ∀ exchange ∈ asked, ∀ failure, exchange.answer = .error failure ->
          ended.site.isOpen = later.isOpen ∧
          (failure.isDriver -> ∀ report, turn.call.report? = some report ->
            outcome = .error (.connection (report.prelude ++ failure.message) (some failure)) ∧
            ended.site.remarks = later.remarks ++ [.logged (report.event failure).entry]) := by
  refine ⟨?_, fun turn => ⟨fun answered => turn.exists_outcome answered later, ?_⟩⟩
  · have balances := run.balances
    rw [closed, Balances] at balances
    cases isOpen : later.isOpen with
    | true =>
        rw [isOpen] at balances
        exact balances
    | false =>
        rw [isOpen] at balances
        exact balances
  · intro outcome isEnd
    obtain ⟨acts, exchanged, remarked, comes⟩ := PoolTurn.exists_comes isEnd
    rw [← exchanged]
    refine ⟨comes.asks, comes.refuses, ?_⟩
    intro exchange happened failure isFailure
    refine ⟨comes.stays exchange happened failure isFailure, ?_⟩
    intro ofDriver report isReport
    obtain ⟨surfaced, recorded⟩ :=
      comes.reports exchange happened failure isFailure ofDriver report isReport
    exact ⟨surfaced, recorded ▸ remarked⟩

/-- A driver that creates a pool and has no connection to lend. -/
def Answerer.exhausted : Answerer
  | .acquire => .error { kind := .driver (.system "TimeoutError"), message := "too many" }
  | request => granting .null request

/-- A pool that was opened, and could not lend, is open, and the driver has one pool. -/
theorem pool_tracks_driver_exhausted :
    let settings : DatabaseSettings := { statementTimeout := 0 }
    let turn (call : PoolCall) : PoolTurn := ⟨call, [.answered .exhausted]⟩
    let opened := ((turn .establish).ended settings {}).site
    let borrowing := (turn .acquire).ended settings opened
    opened.isOpen ∧ borrowing.site.isOpen ∧
    ((turn .establish).exchanges settings {}).countP Exchange.isCreation = 1 ∧
    ∃ failure cause, borrowing.operation.outcome? = some (.error failure) ∧
      failure = .connection "Cannot acquire connection: too many" (some cause) ∧
      borrowing.site.remarks =
        opened.remarks ++ [.logged (PoolEvent.acquireFailed cause).entry] := by
  intro settings turn opened borrowing
  have isOpened : ((turn .establish).ended settings {}).operation.outcome? = some (.ok ()) := rfl
  have run := PoolTurn.Run.cons isOpened (.nil opened)
  obtain ⟨balances, tracks⟩ := pool_tracks_driver rfl run
  obtain ⟨-, concludes⟩ := tracks (turn .acquire)
  obtain ⟨-, -, reports⟩ := concludes _ rfl
  obtain ⟨stays, surfaces⟩ := reports ⟨.acquire, Answerer.exhausted .acquire⟩
    List.mem_cons_self _ rfl
  obtain ⟨surfaced, recorded⟩ := surfaces rfl _ rfl
  exact ⟨rfl, stays, balances, _, _, rfl, Except.error.inj surfaced, recorded⟩

end InstanceDirectory
