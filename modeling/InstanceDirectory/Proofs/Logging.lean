import InstanceDirectory.Proofs.Conduct
import InstanceDirectory.Repository

/-!
# What operations log

Operations know nothing of the observation of a read.  All that they write into the journal
themselves is contact with the driver and events of the pool, each with its own fields and
nothing else.  This is kept by every way of putting operations together and by every moment,
so it holds of the journal at each point of a run.
-/

namespace InstanceDirectory

open Operation

/-- Contact with the driver, or an event of the pool with nothing attached to it. -/
def Notice.IsOfPool : Notice -> Prop
  | .contact _ => True
  | .logged entry => ∃ event : PoolEvent, entry = event.entry

/-- Whatever the driver answers, all that the operation writes is of the pool. -/
inductive Operation.LogsPoolOnly : Operation α -> Prop where
  | done (outcome : Except Failure α) : LogsPoolOnly (.done outcome)
  | note {notice : Notice} {next : Operation α} :
      notice.IsOfPool -> LogsPoolOnly next -> LogsPoolOnly (.note notice next)
  | ifOpen {whenOpen whenClosed : Operation α} :
      LogsPoolOnly whenOpen -> LogsPoolOnly whenClosed ->
      LogsPoolOnly (.ifOpen whenOpen whenClosed)
  | setOpen (isOpen : Bool) {next : Operation α} :
      LogsPoolOnly next -> LogsPoolOnly (.setOpen isOpen next)
  | call {request : Request} {next : Except Failure request.Reply -> Operation α} :
      (∀ answer, LogsPoolOnly (next answer)) -> LogsPoolOnly (.call request next)
  | rows (kept : List Value) (judge : List Value -> Value -> Verdict)
      {next : RowsEnd -> Operation α} :
      (∀ ending, LogsPoolOnly (next ending)) -> LogsPoolOnly (.rows kept judge next)

/-- The journal has grown by remarks of the pool only. -/
def Site.GrowsByPool (site later : Site) : Prop :=
  ∃ added, later.remarks = site.remarks ++ added ∧ ∀ notice ∈ added, notice.IsOfPool

namespace Site.GrowsByPool

theorem of_remarks_eq {site later : Site} (same : later.remarks = site.remarks) :
    site.GrowsByPool later :=
  ⟨[], by rw [same, List.append_nil], nofun⟩

theorem trans
    {first second third : Site}
    (earlier : first.GrowsByPool second)
    (later : second.GrowsByPool third) :
    first.GrowsByPool third := by
  obtain ⟨before, grown, beforeOfPool⟩ := earlier
  obtain ⟨after, grownToo, afterOfPool⟩ := later
  refine ⟨before ++ after, by rw [grownToo, grown, List.append_assoc], fun notice added => ?_⟩
  rcases List.mem_append.mp added with first | second
  · exact beforeOfPool notice first
  · exact afterOfPool notice second

theorem note {notice : Notice} (isOfPool : notice.IsOfPool) (site : Site) :
    site.GrowsByPool (site.note notice) := by
  refine ⟨[notice].filter Notice.isRemark, Site.remarks_note site notice, fun found added => ?_⟩
  obtain rfl := List.mem_singleton.mp (List.mem_filter.mp added).1
  exact isOfPool

end Site.GrowsByPool

namespace Operation.LogsPoolOnly

/-- Recording an event of the pool is no exception. -/
theorem report (event : PoolEvent) {next : Operation α} (logs : next.LogsPoolOnly) :
    (Operation.report event next).LogsPoolOnly :=
  .note ⟨event, rfl⟩ logs

theorem attempt
    {operation : Operation α}
    {next : Except Failure α -> Operation β}
    (logs : operation.LogsPoolOnly)
    (rest : ∀ outcome, (next outcome).LogsPoolOnly) :
    (operation.attempt next).LogsPoolOnly := by
  induction logs with
  | done outcome => exact rest outcome
  | note isOfPool _ nextHypothesis => exact .note isOfPool nextHypothesis
  | ifOpen _ _ openHypothesis closedHypothesis => exact .ifOpen openHypothesis closedHypothesis
  | setOpen isOpen _ nextHypothesis => exact .setOpen isOpen nextHypothesis
  | call _ nextHypothesis => exact .call nextHypothesis
  | rows kept judge _ nextHypothesis => exact .rows kept judge nextHypothesis

theorem andThen
    {operation : Operation α}
    {next : α -> Operation β}
    (logs : operation.LogsPoolOnly)
    (rest : ∀ answer, (next answer).LogsPoolOnly) :
    (operation.andThen next).LogsPoolOnly := by
  refine logs.attempt fun outcome => ?_
  cases outcome with
  | ok answer => exact rest answer
  | error failure => exact .done _

/-- Settling writes of the pool only, and what is left will. -/
theorem settle {operation : Operation α} (logs : operation.LogsPoolOnly) (site : Site) :
    (operation.settle site).1.LogsPoolOnly ∧ site.GrowsByPool (operation.settle site).2 := by
  induction logs generalizing site with
  | done outcome => exact ⟨.done outcome, .of_remarks_eq rfl⟩
  | @note notice next isOfPool _ nextHypothesis =>
      obtain ⟨later, grows⟩ := nextHypothesis (site.note notice)
      exact ⟨later, (Site.GrowsByPool.note isOfPool site).trans grows⟩
  | ifOpen _ _ openHypothesis closedHypothesis =>
      cases found : site.isOpen with
      | true => simpa [Operation.settle, found] using openHypothesis site
      | false => simpa [Operation.settle, found] using closedHypothesis site
  | setOpen isOpen _ nextHypothesis => exact nextHypothesis { site with isOpen }
  | @call request next logs _ =>
      refine ⟨.call logs, ?_⟩
      cases traced : isTraced request with
      | true =>
          simp only [Operation.settle, traced, if_true]
          have ofPool : (Notice.contact (.requested request)).IsOfPool := trivial
          exact .note ofPool site
      | false =>
          simp only [Operation.settle, traced, Bool.false_eq_true, if_false]
          exact .of_remarks_eq rfl
  | rows kept judge logs _ => exact ⟨.rows kept judge logs, .of_remarks_eq rfl⟩

/-- However a row is answered for, the loop goes on or ends in writing of the pool only. -/
theorem afterRow
    {next : RowsEnd -> Operation α}
    (logs : ∀ ending, (next ending).LogsPoolOnly)
    (kept : List Value)
    (judge : List Value -> Value -> Verdict)
    (answer : Except Failure (Option Value)) :
    (Operation.afterRow kept judge next answer).LogsPoolOnly := by
  rcases answer with failure | (_ | row)
  · exact logs _
  · exact logs _
  · simp only [Operation.afterRow]
    cases judge kept row with
    | take => exact .rows _ judge logs
    | takeLast => exact logs _
    | refuse failure => exact logs _

/-- Answering writes of the pool only, whatever the answer is. -/
theorem answer
    {operation : Operation α}
    (logs : operation.LogsPoolOnly)
    (answerer : Answerer)
    (site : Site) :
    (operation.answer answerer site).1.LogsPoolOnly ∧
      site.GrowsByPool (operation.answer answerer site).2 := by
  cases logs with
  | done outcome => exact settle (.done outcome) site
  | note isOfPool logs => exact settle (.note isOfPool logs) site
  | ifOpen openLogs closedLogs => exact settle (.ifOpen openLogs closedLogs) site
  | setOpen isOpen logs => exact settle (.setOpen isOpen logs) site
  | call logs => exact settle (logs _) site
  | @rows kept judge next logs =>
      obtain ⟨traced, -, sameRemarks, answered⟩ := answer_rows kept judge next answerer site
      rw [answered]
      obtain ⟨later, grows⟩ := settle (afterRow logs kept judge (answerer .nextRow)) traced
      exact ⟨later, (Site.GrowsByPool.of_remarks_eq sameRemarks).trans grows⟩

end Operation.LogsPoolOnly

namespace Supervision

/-- At every moment an operation writes of the pool only, and what is left will. -/
theorem step_logsPoolOnly
    {supervision : Supervision α}
    (logs : supervision.operation.LogsPoolOnly)
    (moment : Moment) :
    (supervision.step moment).operation.LogsPoolOnly ∧
      supervision.site.GrowsByPool (supervision.step moment).site := by
  cases moment with
  | answered answerer => exact logs.answer answerer supervision.site
  | fired =>
      simp only [step, fire]
      split
      · exact ⟨logs, .of_remarks_eq rfl⟩
      · obtain ⟨-, sameRemarks⟩ := noteInterruption_traced supervision.operation supervision.site
        obtain ⟨later, grows⟩ := logs.answer Answerer.interruption
          (noteInterruption supervision.operation supervision.site)
        exact ⟨later, (Site.GrowsByPool.of_remarks_eq sameRemarks).trans grows⟩

/-- During all of a run it writes of the pool only. -/
theorem after_logsPoolOnly
    {supervision : Supervision α}
    (logs : supervision.operation.LogsPoolOnly)
    (moments : List Moment) :
    (supervision.after moments).operation.LogsPoolOnly ∧
      supervision.site.GrowsByPool (supervision.after moments).site := by
  induction moments generalizing supervision with
  | nil => exact ⟨logs, .of_remarks_eq rfl⟩
  | cons moment moments momentsHypothesis =>
      obtain ⟨stepLogs, grows⟩ := step_logsPoolOnly logs moment
      obtain ⟨later, growsOn⟩ := momentsHypothesis stepLogs
      exact ⟨later, grows.trans growsOn⟩

end Supervision

/-- The operation that a read awaits, if it awaits one, writes of the pool only. -/
def Read.LogsPoolOnly : Read β α -> Prop
  | .settled _ => True
  | .awaiting operation _ => operation.LogsPoolOnly

/-- A read that writes of the pool only leaves the journal grown by that. -/
theorem Read.LogsPoolOnly.conduct
    {read : Read β α}
    (logs : read.LogsPoolOnly)
    (context : Context)
    (course : Course)
    (site : Site) :
    site.GrowsByPool (read.conduct context course site).site := by
  cases read with
  | settled account => exact .of_remarks_eq rfl
  | awaiting operation conclude =>
      cases fired : context.hasFired course.sent course.now with
      | true =>
          rw [conduct_of_fired fired]
          exact .of_remarks_eq rfl
      | false =>
          rw [conduct_of_unfired fired]
          obtain ⟨started, grows⟩ := Operation.LogsPoolOnly.settle logs site
          have running : (Supervision.start operation site).operation.LogsPoolOnly := started
          exact grows.trans (Supervision.after_logsPoolOnly running course.moments).2

/-! ## The operations of the reads -/

namespace Pool

theorem failWith_logsPoolOnly
    (event : Failure -> PoolEvent)
    (message : String)
    (failure : Failure) :
    (failWith event message failure : Operation α).LogsPoolOnly := by
  unfold failWith
  split
  · exact .report _ (.done _)
  · exact .done _

theorem acquire_logsPoolOnly : acquire.LogsPoolOnly := by
  refine .ifOpen (.call fun answer => ?_) (.done _)
  cases answer with
  | ok connection => exact .report _ (.done _)
  | error failure => exact failWith_logsPoolOnly _ _ _

theorem release_logsPoolOnly (connection : Connection) : (release connection).LogsPoolOnly := by
  refine .ifOpen (.call fun answer => ?_) (.done _)
  cases answer with
  | ok => exact .report _ (.done _)
  | error failure => exact failWith_logsPoolOnly _ _ _

end Pool

namespace Executor

theorem fetchRow_logsPoolOnly (executor : Executor) (statement : Statement) :
    (executor.fetchRow statement).LogsPoolOnly := by
  cases executor with
  | direct => exact .call fun fetched => .done fetched
  | pooled prefetch =>
      refine Pool.acquire_logsPoolOnly.andThen fun connection => .call fun fetched => ?_
      refine (Pool.release_logsPoolOnly connection).attempt fun returned => ?_
      cases returned <;> exact .done _

theorem startTransaction_logsPoolOnly
    (connection : Connection)
    (statement : Statement)
    (prefetch : Int) :
    (startTransaction connection statement prefetch).LogsPoolOnly := by
  refine .note trivial (.call fun started => ?_)
  cases started with
  | ok => exact .done _
  | error failure =>
      simp only
      split
      · exact (Pool.release_logsPoolOnly connection).andThen fun _ => .done _
      · exact .done _

theorem openRows_logsPoolOnly (executor : Executor) (statement : Statement) :
    (executor.openRows statement).LogsPoolOnly := by
  cases executor with
  | direct => exact .call fun opened => .done _
  | pooled prefetch =>
      exact Pool.acquire_logsPoolOnly.andThen fun connection =>
        startTransaction_logsPoolOnly connection statement prefetch

end Executor

namespace Cursor

theorem read_logsPoolOnly (cursor : Cursor) (judge : List Value -> Value -> Verdict) :
    (cursor.read judge).LogsPoolOnly := by
  cases cursor with
  | direct =>
      refine .rows [] judge fun ending => ?_
      cases ending <;> exact .done _
  | pooled connection statement prefetch =>
      refine .note trivial (.rows [] judge fun ending => ?_)
      cases ending <;> exact .done _

theorem close_logsPoolOnly (cursor : Cursor) : cursor.close.LogsPoolOnly := by
  cases cursor with
  | direct => exact .call fun closed => .done closed
  | pooled connection statement prefetch =>
      refine .call fun rolledBack => ?_
      refine (Pool.release_logsPoolOnly connection).attempt fun returned => ?_
      cases returned <;> exact .done _

end Cursor

theorem Scan.run_logsPoolOnly (cursor : Cursor) (details : Fields) :
    (Scan.run cursor details).LogsPoolOnly := by
  have collects : (Scan.collect cursor).LogsPoolOnly := by
    refine (cursor.read_logsPoolOnly Scan.judge).attempt fun rows => ?_
    cases rows <;> exact .done _
  exact collects.attempt fun collected =>
    cursor.close_logsPoolOnly.attempt fun closed => .done _

theorem Repository.searchOperation_logsPoolOnly
    (repository : Repository)
    (statement : Statement) :
    (repository.searchOperation statement).LogsPoolOnly :=
  (repository.executor.openRows_logsPoolOnly statement).andThen fun cursor =>
    Scan.run_logsPoolOnly cursor searchDetails

end InstanceDirectory
