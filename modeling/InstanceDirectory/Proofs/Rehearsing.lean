import InstanceDirectory.Proofs.Conduct
import InstanceDirectory.Proofs.Lending
import InstanceDirectory.Proofs.Timeline
import InstanceDirectory.Rehearsal.Session

/-!
# Rehearsed reads

A rehearsal takes a read in a world with a clock, signals and a script.  Whatever happens
while its caller waits is a moment of the operation or leaves the operation alone, so taking
a read is conducting it through some course.  The caller waits for a bounded number of
things, and the bound is large enough: every answer that is still needed, every signal that
is still to be sent and the firing of the context cost at most two of them.
-/

namespace InstanceDirectory

open Operation

namespace Repository

variable {most : Option Nat} {bound : Nat}

/-- A read with a statement ends when it does so with every statement. -/
theorem compileThen_endsWithin
    {next : Statement -> Read β α}
    (repository : Repository)
    (lookup : String)
    (reporter : Reporter)
    (draft : Except Failure Draft)
    (within : ∀ statement, (next statement).EndsWithin most bound) :
    (repository.compileThen lookup reporter draft next).EndsWithin most bound := by
  rcases compileThen_cases repository lookup reporter draft next with
    ⟨account, settled⟩ | ⟨statement, -, goesOn⟩
  · rw [settled]
    trivial
  · rw [goesOn]
    exact within statement

/-- A lookup needs at most three answers. -/
theorem lookUp_endsWithin
    (repository : Repository)
    (reporter : Reporter)
    (lookup : Lookup)
    (draft : Except Failure Draft) :
    (repository.lookUp reporter lookup draft).EndsWithin most 3 :=
  repository.compileThen_endsWithin _ _ _ repository.executor.fetchRow_endsWithin

/-- A search needs at most six answers besides those for the rows. -/
theorem search_endsWithin
    (repository : Repository)
    (reporter : Reporter)
    (search : Search)
    (number : Nat) :
    (repository.search reporter search).EndsWithin (some number) (3 + (number + 3)) := by
  refine repository.compileThen_endsWithin _ _ _ fun statement => ?_
  exact (repository.executor.openRows_endsWithin statement).andThen fun cursor =>
    Scan.run_endsWithin number cursor searchDetails

end Repository

namespace Rehearsal

namespace World

/-- Sending a signal changes the sent signals only. -/
theorem send_eq (world : World) (signal : Signal) :
    ∃ signals, world.send signal = { world with sent := signals ++ world.sent } := by
  unfold send
  split
  · exact ⟨[], rfl⟩
  · exact ⟨[signal], rfl⟩

theorem cancel_eq (world : World) (name : Option String) :
    ∃ signals, world.cancel name = { world with sent := signals ++ world.sent } := by
  unfold cancel
  split
  · exact world.send_eq _
  · exact ⟨[], rfl⟩

theorem mem_sent_send
    {world : World}
    {signal other : Signal} :
    other ∈ (world.send signal).sent ↔ other ∈ world.sent ∨ other = signal := by
  unfold send
  by_cases sent : signal ∈ world.sent
  · simp only [List.contains_eq_mem, sent, decide_true, if_true]
    constructor
    · exact .inl
    · rintro (isSent | rfl)
      · exact isSent
      · exact sent
  · simp [sent, or_comm]

theorem foldl_send_eq (signals : List Signal) (world : World) :
    ∃ sent, signals.foldl send world = { world with sent } ∧
      ∀ signal, signal ∈ sent ↔ signal ∈ world.sent ∨ signal ∈ signals := by
  induction signals generalizing world with
  | nil => exact ⟨world.sent, rfl, by simp⟩
  | cons first signals signalsHypothesis =>
      obtain ⟨sent, delivered, members⟩ := signalsHypothesis (world.send first)
      refine ⟨sent, delivered, ?_⟩
      intro signal
      rw [members, mem_sent_send, List.mem_cons, or_assoc]

/-- Delivering signals sends those that are due and leaves the others to be sent. -/
theorem deliver_eq (world : World) :
    ∃ sent, world.deliver =
      { world with
        sent
        pending := world.pending.filter (not ∘ fun planned => planned.1 ≤ world.now) } ∧
      ∀ signal, signal ∈ sent ↔ signal ∈ world.sent ∨
        ∃ planned ∈ world.pending, planned.1 ≤ world.now ∧ planned.2 = signal := by
  unfold deliver
  rw [List.partition_eq_filter_filter]
  obtain ⟨sent, delivered, members⟩ := foldl_send_eq
    ((world.pending.filter fun planned => planned.1 ≤ world.now).map Prod.snd)
    { world with
      pending := world.pending.filter (not ∘ fun planned => planned.1 ≤ world.now) }
  refine ⟨sent, delivered, ?_⟩
  simpa [and_assoc] using members

/-- What is delivered is no longer to be sent. -/
theorem length_pending_deliver
    {world : World}
    (due : world.isDue) :
    world.deliver.pending.length < world.pending.length := by
  obtain ⟨sent, delivered, -⟩ := world.deliver_eq
  rw [delivered]
  obtain ⟨planned, isPlanned, isDue⟩ := List.any_eq_true.mp due
  exact List.length_filter_lt_length_iff_exists.mpr ⟨planned, isPlanned, by simpa using isDue⟩

/--
Awaiting an answer leaves the operation, and all of the world but the sent signals.  No answer
arrives before it was awaited.
-/
theorem enact_eq (world : World) (supervision : Supervision α) :
    ∃ signals wake cue, world.now ≤ wake ∧ world.enact supervision =
      ({ world with site := supervision.site, sent := signals ++ world.sent },
        { operation := supervision.operation, fired := supervision.fired, wake, cue }) := by
  unfold enact await
  cases supervision.operation.request? with
  | none => exact ⟨[], world.now, {}, Int.le_refl _, rfl⟩
  | some request =>
      obtain ⟨signals, cancelled⟩ := cancel_eq { world with site := supervision.site }
        (world.script.cue request).cancels
      refine ⟨signals, _, _, ?_, Prod.ext cancelled rfl⟩
      exact Int.le_add_of_nonneg_right (Int.le_max_right _ _)

theorem start_eq (world : World) (operation : Operation α) :
    ∃ signals wake cue, world.now ≤ wake ∧ world.start operation =
      ({ world with
          site := (Supervision.start operation world.site).site
          sent := signals ++ world.sent },
        { operation := (Supervision.start operation world.site).operation, wake, cue }) :=
  world.enact_eq _

/-- Resuming a task answers its operation. -/
theorem resume_eq (world : World) (task : Task α) :
    let answerer := world.answerOf task.cue (keptRows task.operation)
    let supervision := (world.supervision task).step (.answered answerer)
    ∃ signals lent wake cue, world.now ≤ wake ∧ world.resume task =
      ({ world with site := supervision.site, sent := signals ++ world.sent, lent },
        { operation := supervision.operation, fired := supervision.fired, wake, cue }) := by
  intro answerer supervision
  have counted : ∃ lent,
      world.countConnections task.operation.request? task.cue = { world with lent } := by
    unfold countConnections
    split <;> exact ⟨_, rfl⟩
  obtain ⟨lent, counted⟩ := counted
  obtain ⟨signals, wake, cue, ahead, enacted⟩ := enact_eq { world with lent } supervision
  refine ⟨signals, lent, wake, cue, ahead, ?_⟩
  rw [resume, counted]
  exact enacted

theorem fire_eq (world : World) (task : Task α) :
    let supervision := (world.supervision task).step .fired
    ∃ signals wake cue, world.now ≤ wake ∧ world.fire task =
      ({ world with site := supervision.site, sent := signals ++ world.sent },
        { operation := supervision.operation, fired := supervision.fired, wake, cue }) :=
  world.enact_eq _

/-- A script has no rows after its last one. -/
theorem hasAllRows_answerOf
    (world : World)
    (cue : Cue)
    (operation : Operation α) :
    operation.HasAllRows (some world.script.rows.rows.length)
      (world.answerOf cue (keptRows operation)) := by
  cases operation with
  | rows kept judge next =>
      intro number same allRead row answered
      cases same
      have absent : world.script.rows.rows[kept.length]? = none :=
        List.getElem?_eq_none allRead
      have answers : world.script.rows.answer kept.length = .ok (some row) := answered
      unfold RowsCue.answer at answers
      rw [absent] at answers
      split at answers
      · split at answers <;> cases answers
      · cases answers
  | _ => trivial

end World

/-- The timeline from the present on, with the signals that the script is going to send. -/
def World.timeline
    (world : World) (triggered : List (Instant × Signal)) (replies : List Reply) : Timeline where
  now := world.now
  sent := world.sent
  signals := world.pending ++ triggered
  replies := replies

namespace Caller

variable {caller : Caller α} {world : World} {context : Context} {bound fuel : Nat}

/--
A caller waits under a context, and nobody stops it or shares the store with it.  Its
operation ends within a number of answers.
-/
structure Attends
    (caller : Caller α) (world : World) (context : Context) (bound : Nat) : Prop where
  /-- No other operation is being carried on. -/
  quiet : world.background = []
  /-- The operation is under the context. -/
  under : caller.context = some context
  /-- Nobody will tell the caller to stop. -/
  unstopped : caller.stopAt = none
  /-- Nobody has told the caller to stop. -/
  unbroken : caller.stopped = false
  /-- The operation ends, as long as there are the rows of the script only. -/
  within : caller.task.operation.EndsWithin (some world.script.rows.rows.length) bound
  /-- The operation has ended or waits for an answer. -/
  settled : caller.task.operation.IsSettled
  /-- The answer has not arrived before. -/
  ahead : world.now ≤ caller.task.wake

namespace Attends

/-- Sending signals is not the caller's concern. -/
theorem deliver (attends : caller.Attends world context bound) :
    caller.Attends world.deliver context bound := by
  obtain ⟨sent, delivered, -⟩ := world.deliver_eq
  rw [delivered]
  exact { attends with }

/-- Time passes while the caller waits, though not beyond the arrival of the answer. -/
theorem move
    {now : Instant}
    (attends : caller.Attends world context bound)
    (ahead : now ≤ caller.task.wake) :
    caller.Attends { world with now } context bound :=
  { attends with ahead }

/-- An answer leaves one answer less to be given. -/
theorem resume (attends : caller.Attends world context bound) :
    { caller with task := (world.resume caller.task).2 }.Attends
      (world.resume caller.task).1 context (bound - 1) := by
  obtain ⟨signals, lent, wake, cue, ahead, resumed⟩ := world.resume_eq caller.task
  rw [resumed]
  exact { attends with
    within := attends.within.answer attends.settled (world.hasAllRows_answerOf _ _) _
    settled := isSettled_answer _ _ _
    ahead }

/-- When the context fires, the interruption is an answer as well. -/
theorem fire
    (attends : caller.Attends world context bound)
    (unfired : caller.task.fired = false)
    (unended : caller.task.operation.outcome? = none) :
    { caller with task := (world.fire caller.task).2 }.Attends
      (world.fire caller.task).1 context (bound - 1) := by
  obtain ⟨signals, wake, cue, ahead, fires⟩ := world.fire_eq caller.task
  have interrupted : (world.supervision caller.task).step .fired =
      { (world.supervision caller.task).interrupt with fired := true } := by
    simp [Supervision.step, Supervision.fire, World.supervision, unfired, unended]
  rw [fires, interrupted]
  exact { attends with
    within := attends.within.answer attends.settled (hasAllRows_interruption _ _) _
    settled := isSettled_answer _ _ _
    ahead }

end Attends

theorem unfired_of_mustFire
    (fires : caller.mustFire world) :
    caller.task.fired = false := by
  unfold mustFire at fires
  split at fires
  · simp_all
  · cases fires

theorem hasFired_of_mustFire
    (attends : caller.Attends world context bound)
    (fires : caller.mustFire world) :
    context.hasFired world.sent world.now := by
  simp only [mustFire, attends.under, Bool.and_eq_true] at fires
  exact fires.2

/-- A context that has not fired and need not fire has no reason to. -/
theorem not_hasFired_of_not_mustFire
    (attends : caller.Attends world context bound)
    (unfired : caller.task.fired = false)
    (unforced : caller.mustFire world = false) :
    context.hasFired world.sent world.now = false := by
  simpa [mustFire, attends.under, unfired] using unforced

section NextMoment

variable {moment : Instant}

/-- The next moment is the first after the present at which something is due. -/
theorem nextMoment_le
    (isMoment : moment ∈ caller.moments world)
    (later : world.now < moment) :
    caller.nextMoment world ≤ moment := by
  have isNext : (caller.task.wake :: (caller.moments world).filter (world.now < ·)).min? =
      some (caller.nextMoment world) := List.min?_cons'
  have least := (List.min?_eq_some_iff.mp isNext).2
  exact least moment (List.mem_cons_of_mem _ (List.mem_filter.mpr ⟨isMoment, by simpa using later⟩))

theorem lt_nextMoment (asleep : world.now < caller.task.wake) :
    world.now < caller.nextMoment world := by
  have isNext : caller.nextMoment world ∈
      caller.task.wake :: (caller.moments world).filter (world.now < ·) :=
    List.min?_mem List.min?_cons'
  rcases List.mem_cons.mp isNext with wakes | later
  · exact wakes ▸ asleep
  · simpa using (List.mem_filter.mp later).2

end NextMoment

/-- Until the next moment nothing gives a context that has not fired a reason to. -/
theorem nextMoment_le_of_cause
    {triggered : List (Instant × Signal)}
    {replies : List Reply}
    {cause : Instant}
    (attends : caller.Attends world context bound)
    (undue : world.isDue = false)
    (unfired : caller.task.fired = false)
    (unforced : caller.mustFire world = false)
    (afterwards : ∀ planned ∈ triggered, caller.nextMoment world ≤ planned.1)
    (isCause : cause ∈ (world.timeline triggered replies).causes context) :
    caller.nextMoment world ≤ cause := by
  have quiet := not_hasFired_of_not_mustFire attends unfired unforced
  obtain ⟨uncancelled, notDue⟩ := Bool.or_eq_false_iff.mp quiet
  rw [Timeline.causes, List.mem_append, List.mem_append] at isCause
  rcases isCause with isDeadline | isCancelled | isPlanned
  · have deadline : context.deadline = some cause := by simpa using isDeadline
    have later : world.now < cause := by simpa [Context.isDue, deadline] using notDue
    refine nextMoment_le ?_ later
    simp [moments, unfired, attends.under, deadline]
  · simp [World.timeline, uncancelled] at isCancelled
  · obtain ⟨planned, isOurs, rfl⟩ := List.mem_map.mp isPlanned
    rcases List.mem_append.mp (List.mem_filter.mp isOurs).1 with pending | triggers
    · have later : world.now < planned.1 := by
        have notYet := List.any_eq_false.mp undue planned pending
        simpa using notYet
      refine nextMoment_le ?_ later
      have isMoment : planned.1 ∈ world.pending.map Prod.fst := List.mem_map_of_mem pending
      simp [moments, isMoment]
    · exact afterwards planned triggers

/-- Waiting carries the operation of a caller through what happens on a timeline. -/
structure Follows
    (fuel : Nat) (world : World) (caller : Caller α) (context : Context) (timeline : Timeline) :
    Prop where
  /-- The site is the one that the happenings lead to. -/
  site : (wait fuel world caller).1.site =
    ((world.supervision caller.task).after
      ((timeline.happenings context (world.supervision caller.task)).map Happening.moment)).site
  /-- The caller is told the outcome when the last of them has happened. -/
  now : (wait fuel world caller).1.now =
    timeline.endsAt context (world.supervision caller.task)
  /-- The outcome is the one that the happenings lead to. -/
  outcome : ((world.supervision caller.task).after
      ((timeline.happenings context (world.supervision caller.task)).map
        Happening.moment)).outcome?
      (context.reason (timeline.sentBy (timeline.endsAt context
        (world.supervision caller.task)))) =
    some (wait fuel world caller).2

/--
Some happenings bring a caller to a later one.  Where the later one goes on from, the earlier
one goes on as well.
-/
theorem Follows.step
    {later : Caller α}
    {laterWorld : World}
    {timeline laterTimeline : Timeline}
    (follows : Follows fuel laterWorld later context laterTimeline)
    (passed : List Happening)
    (waits : wait (fuel + 1) world caller = wait fuel laterWorld later)
    (reaches : (world.supervision caller.task).after (passed.map Happening.moment) =
      laterWorld.supervision later.task)
    (goesOn : timeline.happenings context (world.supervision caller.task) =
      passed ++ laterTimeline.happenings context (laterWorld.supervision later.task))
    (sameEnd : timeline.endsAt context (world.supervision caller.task) =
      laterTimeline.endsAt context (laterWorld.supervision later.task))
    (continues : Timeline.Continues context timeline laterTimeline) :
    Follows (fuel + 1) world caller context timeline := by
  have ended : (world.supervision caller.task).after
      ((timeline.happenings context (world.supervision caller.task)).map Happening.moment) =
      (laterWorld.supervision later.task).after
        ((laterTimeline.happenings context (laterWorld.supervision later.task)).map
          Happening.moment) := by
    rw [goesOn, List.map_append, Supervision.after_append, reaches]
  constructor
  · rw [waits, ended]
    exact follows.site
  · rw [waits, sameEnd]
    exact follows.now
  · rw [waits, ended, sameEnd,
      continues.reason_eq (laterTimeline.le_endsAt context (laterWorld.supervision later.task))]
    exact follows.outcome

/-- What happens next brings a caller to a later one whose timeline begins then. -/
theorem Follows.cons
    {later : Caller α}
    {laterWorld : World}
    {timeline laterTimeline : Timeline}
    {reply : Reply}
    {happening : Happening}
    (follows : Follows fuel laterWorld later context laterTimeline)
    (waits : wait (fuel + 1) world caller = wait fuel laterWorld later)
    (replied : timeline.replies = reply :: laterTimeline.replies)
    (next : (world.supervision caller.task).next? (timeline.fires? context) timeline.now reply =
      some happening)
    (reaches : (world.supervision caller.task).step happening.moment =
      laterWorld.supervision later.task)
    (sameNow : laterTimeline.now = happening.time)
    (sameFire : (laterWorld.supervision later.task).fired ∨
      timeline.fires? context = laterTimeline.fires? context)
    (continues : Timeline.Continues context timeline laterTimeline) :
    Follows (fuel + 1) world caller context timeline := by
  have rest : (laterWorld.supervision later.task).happenings (timeline.fires? context)
      happening.time laterTimeline.replies =
        laterTimeline.happenings context (laterWorld.supervision later.task) := by
    rw [Timeline.happenings, sameNow]
    rcases sameFire with fired | sameFire
    · rw [Supervision.happenings_of_fired fired, ← Supervision.happenings_of_fired fired]
    · rw [sameFire]
  have goesOn : timeline.happenings context (world.supervision caller.task) =
      [happening] ++ laterTimeline.happenings context (laterWorld.supervision later.task) := by
    rw [Timeline.happenings, replied, Supervision.happenings_cons next, reaches, rest]
    rfl
  refine follows.step [happening] waits reaches goesOn ?_ continues
  rw [Timeline.endsAt, Timeline.endsAt, goesOn, sameNow]
  exact Happening.endsAt_cons _ _ _

/--
Waiting follows a timeline that begins now.  The reply to the request that the caller is
waiting for comes first, and signals that the script sends belong to the timeline as well as
those from outside.
-/
def Concludes (fuel : Nat) (world : World) (caller : Caller α) (context : Context) : Prop :=
  ∃ triggered reply replies,
    (∀ planned ∈ triggered, world.now ≤ planned.1) ∧
    reply.span = some (caller.task.wake - world.now).toNat ∧
    Follows fuel world caller context (world.timeline triggered (reply :: replies))

namespace Concludes

variable {triggered : List (Instant × Signal)} {replies laterReplies : List Reply}
  {later : World}

/-- What a context has heard by a moment on the timeline of a world. -/
theorem isCancelled_timeline_iff {time : Instant} :
    context.isCancelled ((world.timeline triggered replies).sentBy time) ↔
      context.signal ∈ world.sent ∨
        (∃ planned ∈ world.pending, planned.1 ≤ time ∧ planned.2 = context.signal) ∨
        ∃ planned ∈ triggered, planned.1 ≤ time ∧ planned.2 = context.signal := by
  rw [Context.isCancelled, List.contains_iff_mem, Timeline.mem_sentBy]
  simp only [World.timeline, List.mem_append, or_and_right, exists_or]

/-- A signal that is triggered now is a sent one from now on. -/
theorem continues_of_triggered
    {signals : List Signal}
    (sameNow : later.now = world.now)
    (sameSent : later.sent = signals ++ world.sent)
    (samePending : later.pending = world.pending) :
    Timeline.Continues context
      (world.timeline (signals.map (Prod.mk world.now) ++ triggered) replies)
      (later.timeline triggered laterReplies) := by
  intro time reached
  have began : world.now ≤ time := sameNow ▸ reached
  have now : (∃ planned ∈ signals.map (Prod.mk world.now), planned.1 ≤ time ∧
      planned.2 = context.signal) ↔ context.signal ∈ signals := by
    constructor
    · rintro ⟨planned, isPlanned, -, isOurs⟩
      obtain ⟨signal, isSignal, rfl⟩ := List.mem_map.mp isPlanned
      exact isOurs ▸ isSignal
    · intro isSignal
      exact ⟨(world.now, context.signal), List.mem_map_of_mem isSignal, began, rfl⟩
  rw [Bool.eq_iff_iff, isCancelled_timeline_iff, isCancelled_timeline_iff, sameSent, samePending]
  simp only [List.mem_append, or_and_right, exists_or, now]
  grind

/-- A signal that is delivered was planned before it was sent. -/
theorem continues_deliver :
    Timeline.Continues context (world.timeline triggered replies)
      (world.deliver.timeline triggered laterReplies) := by
  intro time reached
  obtain ⟨sent, delivered, members⟩ := world.deliver_eq
  rw [delivered] at reached
  rw [Bool.eq_iff_iff, isCancelled_timeline_iff, isCancelled_timeline_iff, delivered]
  simp only [members, List.mem_filter, Function.comp_apply]
  rw [or_assoc, ← or_assoc (a := ∃ planned, _) (b := ∃ planned, _)]
  apply or_congr_right
  apply or_congr_left
  constructor
  · rintro ⟨planned, isPlanned, byThen, isOurs⟩
    by_cases due : planned.1 ≤ world.now
    · exact .inl ⟨planned, isPlanned, due, isOurs⟩
    · exact .inr ⟨planned, ⟨isPlanned, by simpa using due⟩, byThen, isOurs⟩
  · rintro (⟨planned, isPlanned, due, isOurs⟩ | ⟨planned, ⟨isPlanned, -⟩, byThen, isOurs⟩)
    · exact ⟨planned, isPlanned, Int.le_trans due reached, isOurs⟩
    · exact ⟨planned, isPlanned, byThen, isOurs⟩

/-- Sending signals leaves the operation as it is. -/
theorem of_deliver
    (due : world.isDue)
    (later : Concludes fuel world.deliver caller context) :
    Concludes (fuel + 1) world caller context := by
  have waits : wait (fuel + 1) world caller = wait fuel world.deliver caller := by
    simp [wait, due]
  obtain ⟨sent, delivered, -⟩ := world.deliver_eq
  have sameNow : world.deliver.now = world.now := by rw [delivered]
  have same : world.supervision caller.task = world.deliver.supervision caller.task := by
    rw [delivered]
    rfl
  obtain ⟨triggered, reply, replies, afterwards, arrives, follows⟩ := later
  have continues : Timeline.Continues context (world.timeline triggered (reply :: replies))
      (world.deliver.timeline triggered (reply :: replies)) := continues_deliver
  have goesOn : (world.timeline triggered (reply :: replies)).happenings context
      (world.supervision caller.task) =
      (world.deliver.timeline triggered (reply :: replies)).happenings context
        (world.deliver.supervision caller.task) := by
    rw [Timeline.happenings, Timeline.happenings, continues.fires?_eq_of_now_eq sameNow, same]
    exact congrArg (Supervision.happenings _ _ · _) sameNow.symm
  rw [sameNow] at afterwards arrives
  refine ⟨triggered, reply, replies, afterwards, arrives, ?_⟩
  refine follows.step [] waits same goesOn ?_ continues
  rw [Timeline.endsAt, Timeline.endsAt, goesOn]
  exact congrArg (Happening.endsAt · _) sameNow.symm

/-- A caller whose operation has ended takes its outcome. -/
theorem of_ended
    {outcome : Except Failure α}
    (attends : caller.Attends world context bound)
    (undue : world.isDue = false)
    (ended : caller.task.operation.outcome? = some outcome) :
    Concludes (fuel + 1) world caller context := by
  have waits : wait (fuel + 1) world caller = (world, caller.outcome world outcome) := by
    simp [wait, undue, ended]
  let reply : Reply := ⟨some (caller.task.wake - world.now).toNat, Answerer.interruption⟩
  have nothing : (world.timeline [] [reply]).happenings context
      (world.supervision caller.task) = [] :=
    Supervision.happenings_of_outcome? ended
  have unsent : (world.timeline [] [reply]).sentBy world.now = world.sent := by
    have none : (world.timeline [] [reply]).signals.filter
        (fun planned => planned.1 ≤ world.now) = [] := by
      rw [List.filter_eq_nil_iff]
      intro planned isPlanned
      rw [World.timeline, List.append_nil] at isPlanned
      exact List.any_eq_false.mp undue planned isPlanned
    rw [Timeline.sentBy, none, List.map_nil, List.append_nil]
    rfl
  refine ⟨[], reply, [], List.forall_mem_nil _, rfl, ?_⟩
  constructor
  · rw [waits, nothing]
    rfl
  · rw [waits, Timeline.endsAt, nothing]
    rfl
  · rw [waits, Timeline.endsAt, nothing]
    show Supervision.outcome? (context.reason ((world.timeline [] [reply]).sentBy world.now))
      (world.supervision caller.task) = _
    rw [unsent]
    cases fired : caller.task.fired <;>
      simp [Supervision.outcome?, World.supervision, ended, Caller.outcome, attends.unbroken,
        attends.under, fired]

/-- An answer that has arrived is what happens next. -/
theorem of_resume
    (attends : caller.Attends world context bound)
    (undue : world.isDue = false)
    (unended : caller.task.operation.outcome? = none)
    (awake : caller.task.wake ≤ world.now)
    (later : Concludes fuel (world.resume caller.task).1
      { caller with task := (world.resume caller.task).2 } context) :
    Concludes (fuel + 1) world caller context := by
  have waits : wait (fuel + 1) world caller = wait fuel (world.resume caller.task).1
      { caller with task := (world.resume caller.task).2 } := by
    simp [wait, undue, unended, awake]
  obtain ⟨signals, lent, wake, cue, -, resumed⟩ := world.resume_eq caller.task
  obtain ⟨triggered, next, replies, afterwards, -, follows⟩ := later
  let answerer := world.answerOf caller.task.cue (World.keptRows caller.task.operation)
  let reply : Reply := ⟨some (caller.task.wake - world.now).toNat, answerer⟩
  have arrived : world.now + (caller.task.wake - world.now).toNat = world.now := by
    have ahead := attends.ahead
    unfold Instant at *
    omega
  have sameNow : (world.resume caller.task).1.now = world.now := by rw [resumed]
  have continues : Timeline.Continues context
      (world.timeline (signals.map (Prod.mk world.now) ++ triggered) (reply :: next :: replies))
      ((world.resume caller.task).1.timeline triggered (next :: replies)) :=
    continues_of_triggered sameNow (by rw [resumed]) (by rw [resumed])
  refine ⟨signals.map (Prod.mk world.now) ++ triggered, reply, next :: replies, ?_, rfl, ?_⟩
  · intro planned isPlanned
    rcases List.mem_append.mp isPlanned with triggers | isLater
    · obtain ⟨signal, -, rfl⟩ := List.mem_map.mp triggers
      exact Int.le_refl _
    · exact sameNow ▸ afterwards planned isLater
  · refine follows.cons waits rfl (Supervision.next?_of_answered unended rfl ?_) ?_ ?_ ?_ continues
    · intro _ fire fires
      show world.now + (caller.task.wake - world.now).toNat ≤ fire
      rw [arrived]
      exact Timeline.le_of_fires? fires
    · rw [resumed]
      rfl
    · exact sameNow.trans arrived.symm
    · exact .inr (continues.fires?_eq_of_now_eq sameNow)

/-- If the answer has not arrived when the context has fired, the firing is what happens next. -/
theorem of_fire
    (attends : caller.Attends world context bound)
    (undue : world.isDue = false)
    (unended : caller.task.operation.outcome? = none)
    (asleep : ¬ caller.task.wake ≤ world.now)
    (fires : caller.mustFire world)
    (later : Concludes fuel (world.fire caller.task).1
      { caller with task := (world.fire caller.task).2 } context) :
    Concludes (fuel + 1) world caller context := by
  have unfired := unfired_of_mustFire fires
  have waits : wait (fuel + 1) world caller = wait fuel (world.fire caller.task).1
      { caller with task := (world.fire caller.task).2 } := by
    simp [wait, undue, unended, asleep, mustStop, attends.unstopped, fires]
  obtain ⟨signals, wake, cue, -, fired⟩ := world.fire_eq caller.task
  obtain ⟨triggered, next, replies, afterwards, -, follows⟩ := later
  let reply : Reply := ⟨some (caller.task.wake - world.now).toNat, Answerer.interruption⟩
  have late : world.now < world.now + (caller.task.wake - world.now).toNat := by
    unfold Instant at *
    omega
  have sameNow : (world.fire caller.task).1.now = world.now := by rw [fired]
  have continues : Timeline.Continues context
      (world.timeline (signals.map (Prod.mk world.now) ++ triggered) (reply :: next :: replies))
      ((world.fire caller.task).1.timeline triggered (next :: replies)) :=
    continues_of_triggered sameNow (by rw [fired]) (by rw [fired])
  have firesNow : (world.timeline (signals.map (Prod.mk world.now) ++ triggered)
      (reply :: next :: replies)).fires? context = some world.now :=
    Timeline.fires?_of_hasFired (hasFired_of_mustFire attends fires)
  refine ⟨signals.map (Prod.mk world.now) ++ triggered, reply, next :: replies, ?_, rfl, ?_⟩
  · intro planned isPlanned
    rcases List.mem_append.mp isPlanned with triggers | isLater
    · obtain ⟨signal, -, rfl⟩ := List.mem_map.mp triggers
      exact Int.le_refl _
    · exact sameNow ▸ afterwards planned isLater
  · have next? : (world.supervision caller.task).next? (some world.now) world.now reply =
        some ⟨world.now, .fired⟩ := by
      apply Supervision.next?_of_late unended unfired
      rintro span ⟨⟩
      exact late
    rw [← firesNow] at next?
    refine follows.cons waits rfl next? ?_ sameNow ?_ continues
    · rw [fired]
      rfl
    · rw [fired]
      exact .inl (Supervision.fired_fire unended)

/-- The passing of time leaves the operation as it is. -/
theorem of_move
    (attends : caller.Attends world context bound)
    (undue : world.isDue = false)
    (unended : caller.task.operation.outcome? = none)
    (asleep : ¬ caller.task.wake ≤ world.now)
    (unforced : caller.mustFire world = false)
    (later : Concludes fuel { world with now := caller.nextMoment world } caller context) :
    Concludes (fuel + 1) world caller context := by
  have alone : World.runBackground { world with now := caller.nextMoment world } =
      { world with now := caller.nextMoment world } := by
    simp [World.runBackground, attends.quiet]
  have waits : wait (fuel + 1) world caller =
      wait fuel { world with now := caller.nextMoment world } caller := by
    simp [wait, undue, unended, asleep, mustStop, attends.unstopped, unforced, alone]
  have asleep : world.now < caller.task.wake := Int.not_le.mp asleep
  have moves : world.now < caller.nextMoment world := lt_nextMoment asleep
  have notBeyond : caller.nextMoment world ≤ caller.task.wake :=
    nextMoment_le List.mem_cons_self asleep
  obtain ⟨triggered, ⟨_, answerer⟩, replies, afterwards, ⟨⟩, follows⟩ := later
  let reply : Reply := ⟨some (caller.task.wake - world.now).toNat, answerer⟩
  have continues : Timeline.Continues context (world.timeline triggered (reply :: replies))
      (World.timeline { world with now := caller.nextMoment world } triggered
        (⟨some (caller.task.wake - caller.nextMoment world).toNat, answerer⟩ :: replies)) :=
    fun _ _ => rfl
  have goesOn : (world.timeline triggered (reply :: replies)).happenings context
      (world.supervision caller.task) =
      (World.timeline { world with now := caller.nextMoment world } triggered
        (⟨some (caller.task.wake - caller.nextMoment world).toNat, answerer⟩ ::
          replies)).happenings context (world.supervision caller.task) := by
    have sameTime : world.now + (caller.task.wake - world.now).toNat =
        caller.nextMoment world + (caller.task.wake - caller.nextMoment world).toNat := by
      unfold Instant at *
      omega
    rw [Timeline.happenings, Timeline.happenings]
    cases fired : caller.task.fired with
    | true =>
        have firedBefore : (world.supervision caller.task).fired := fired
        calc
          _ = _ := Supervision.happenings_of_fired firedBefore
          _ = _ := Supervision.happenings_congr sameTime
          _ = _ := (Supervision.happenings_of_fired firedBefore).symm
    | false =>
        have sameFire := continues.fires?_eq (Int.le_of_lt moves) (by
          intro time began early
          rw [Timeline.hasFired_sentBy_eq_false_iff began]
          intro cause isCause
          exact Int.lt_of_lt_of_le early
            (nextMoment_le_of_cause attends undue fired unforced afterwards isCause))
        rw [sameFire]
        exact Supervision.happenings_congr sameTime
  refine ⟨triggered, reply, replies, ?_, rfl, ?_⟩
  · intro planned triggers
    exact Int.le_trans (Int.le_of_lt moves) (afterwards planned triggers)
  · refine follows.step [] waits rfl goesOn ?_ continues
    rw [Timeline.endsAt, Timeline.endsAt, goesOn]
    exact Happening.endsAt_congr (Supervision.happenings_ne_nil unended)

end Concludes

/-- Nothing happens to a caller unless time moves on. -/
def isIdle (caller : Caller α) (world : World) : Bool :=
  !world.isDue && caller.task.operation.outcome?.isNone &&
    !decide (caller.task.wake ≤ world.now) && !caller.mustFire world

/-- The number of things other than the passing of time that may still happen to a caller. -/
def outlook (caller : Caller α) (world : World) (bound : Nat) : Nat :=
  world.pending.length + bound + if caller.task.fired then 0 else 1

/-- A number of steps that is enough for all that may happen and for time to move between. -/
def needs (caller : Caller α) (world : World) (bound : Nat) : Nat :=
  2 * caller.outlook world bound + if caller.isIdle world then 2 else 1

theorem needs_of_outlook_lt
    {later : Caller α}
    {laterWorld : World}
    {laterBound : Nat}
    (less : later.outlook laterWorld laterBound < caller.outlook world bound)
    (enough : caller.needs world bound ≤ fuel + 1) :
    later.needs laterWorld laterBound ≤ fuel := by
  unfold needs at enough ⊢
  split at enough <;> split <;> omega

theorem outlook_deliver_lt
    (due : world.isDue) :
    caller.outlook world.deliver bound < caller.outlook world bound := by
  have fewer := World.length_pending_deliver due
  unfold outlook
  omega

theorem outlook_resume_lt
    (waiting : 0 < bound) :
    { caller with task := (world.resume caller.task).2 }.outlook
      (world.resume caller.task).1 (bound - 1) < caller.outlook world bound := by
  obtain ⟨signals, lent, wake, cue, -, resumed⟩ := world.resume_eq caller.task
  rw [resumed]
  show world.pending.length + (bound - 1) + (if caller.task.fired then 0 else 1) <
    world.pending.length + bound + if caller.task.fired then 0 else 1
  omega

theorem outlook_fire_lt
    (waiting : 0 < bound)
    (unfired : caller.task.fired = false) :
    { caller with task := (world.fire caller.task).2 }.outlook
      (world.fire caller.task).1 (bound - 1) < caller.outlook world bound := by
  obtain ⟨signals, wake, cue, -, fires⟩ := world.fire_eq caller.task
  rw [fires]
  show world.pending.length + (bound - 1) +
      (if ((world.supervision caller.task).step .fired).fired then 0 else 1) <
    world.pending.length + bound + if caller.task.fired then 0 else 1
  rw [unfired, if_neg Bool.false_ne_true]
  split <;> omega

/-- When time has moved on, something happens to a caller that nobody stops. -/
theorem isIdle_nextMoment (attends : caller.Attends world context bound) :
    caller.isIdle { world with now := caller.nextMoment world } = false := by
  have isNext : caller.nextMoment world ∈
      caller.task.wake :: (caller.moments world).filter (world.now < ·) :=
    List.min?_mem List.min?_cons'
  have happens : caller.nextMoment world = caller.task.wake ∨
      caller.nextMoment world ∈ world.pending.map Prod.fst ∨
      caller.task.fired = false ∧ context.deadline = some (caller.nextMoment world) := by
    rcases List.mem_cons.mp isNext with wakes | later
    · exact .inl wakes
    · have isMoment := (List.mem_filter.mp later).1
      cases fired : caller.task.fired <;>
        simpa [moments, attends.quiet, attends.under, attends.unstopped, fired] using isMoment
  rcases happens with wakes | sends | ⟨unfired, deadline⟩
  · simp [isIdle, ← wakes]
  · obtain ⟨planned, isPlanned, same⟩ := List.mem_map.mp sends
    have due : World.isDue { world with now := caller.nextMoment world } :=
      List.any_eq_true.mpr ⟨planned, isPlanned, by simp [same]⟩
    simp [isIdle, due]
  · simp [isIdle, mustFire, attends.under, unfired, Context.hasFired, Context.isDue, deadline]

/--
A caller that nobody stops carries its operation through some moments to its end, as long as
there are steps for everything that may happen.
-/
theorem concludes
    (attends : caller.Attends world context bound)
    (enough : caller.needs world bound ≤ fuel) :
    Concludes fuel world caller context := by
  induction fuel generalizing world caller bound with
  | zero =>
      unfold needs at enough
      split at enough <;> omega
  | succ fuel fuelHypothesis =>
      -- Every step but the moving of time lowers the outlook, and time never moves twice in a
      -- row: when it has moved, the caller is not idle.
      cases due : world.isDue with
      | true =>
          refine .of_deliver due (fuelHypothesis attends.deliver ?_)
          exact needs_of_outlook_lt (outlook_deliver_lt due) enough
      | false =>
          cases ended : caller.task.operation.outcome? with
          | some outcome => exact .of_ended attends due ended
          | none =>
              have waiting := attends.within.bound_pos attends.settled ended
              by_cases awake : caller.task.wake ≤ world.now
              · refine .of_resume attends due ended awake
                  (fuelHypothesis attends.resume ?_)
                exact needs_of_outlook_lt (outlook_resume_lt waiting) enough
              · cases fires : caller.mustFire world with
                | true =>
                    have unfired := unfired_of_mustFire fires
                    refine .of_fire attends due ended awake fires
                      (fuelHypothesis (attends.fire unfired ended) ?_)
                    exact needs_of_outlook_lt (outlook_fire_lt waiting unfired) enough
                | false =>
                    have notBeyond : caller.nextMoment world ≤ caller.task.wake :=
                      nextMoment_le List.mem_cons_self (Int.not_le.mp awake)
                    refine .of_move attends due ended awake fires
                      (fuelHypothesis (attends.move notBeyond) ?_)
                    have idle : caller.isIdle world := by simp [isIdle, due, ended, awake, fires]
                    unfold needs at enough ⊢
                    rw [if_pos idle] at enough
                    rw [isIdle_nextMoment attends]
                    exact Nat.le_of_succ_le_succ enough

end Caller

namespace World

variable {world : World} {context : Context} {operation : Operation α} {bound : Nat}

/-- The bound of a world is enough for an operation that the world is patient with. -/
theorem needs_le_bound
    {caller : Caller α}
    (quiet : world.background = [])
    (patient : bound ≤ world.patience) :
    caller.needs world bound ≤ world.bound := by
  have least : 64 ≤ world.patience := Nat.le_add_left _ _
  unfold Caller.needs Caller.outlook World.bound
  rw [quiet, List.length_nil]
  split <;> split <;> omega

/--
Carrying an operation out under a context is conducting it along a timeline that begins now.
The signals of the timeline are those that are planned and those that the script sends.
-/
def Conducts (world : World) (context : Context) (operation : Operation α) : Prop :=
  ∃ triggered replies,
    (∀ planned ∈ triggered, world.now ≤ planned.1) ∧
    let timeline := world.timeline triggered replies
    let course := timeline.course context (Supervision.start operation world.site)
    let carried := world.carryOutUnder context none operation
    (context.hasFired world.sent world.now = false ->
      carried.1.now = timeline.endsAt context (Supervision.start operation world.site)) ∧
    ∀ {β : Type} (conclude : Except Failure α -> Account β),
      let conduct := (Read.awaiting operation conclude).conduct context course world.site
      conduct.account? = some (conclude carried.2) ∧ carried.1.site = conduct.site

/-- A world without other operations conducts every operation that it is patient with. -/
theorem conducts
    (quiet : world.background = [])
    (within : operation.EndsWithin (some world.script.rows.rows.length) bound)
    (patient : bound ≤ world.patience) :
    world.Conducts context operation := by
  cases fired : context.hasFired world.sent world.now with
  | true =>
      have carried : world.carryOutUnder context none operation =
          (world, .error (context.reason world.sent)) := by
        simp [carryOutUnder, Context.check, fired]
      refine ⟨[], [], List.forall_mem_nil _, ?_⟩
      rw [carried, fired]
      refine ⟨fun unfired => absurd unfired Bool.noConfusion, ?_⟩
      intro β conclude
      rw [Read.conduct_of_fired fired]
      exact ⟨rfl, rfl⟩
  | false =>
      obtain ⟨signals, wake, cue, ahead, started⟩ := world.start_eq operation
      let began : World :=
        { world with
          site := (Supervision.start operation world.site).site
          sent := signals ++ world.sent }
      let caller : Caller α :=
        { task := { operation := (Supervision.start operation world.site).operation, wake, cue }
          context := some context }
      have attends : caller.Attends began context bound :=
        { quiet
          under := rfl
          unstopped := rfl
          unbroken := rfl
          within := within.settle world.site
          settled := isSettled_settle operation world.site
          ahead }
      obtain ⟨triggered, reply, replies, afterwards, -, follows⟩ :=
        Caller.concludes attends (needs_le_bound quiet patient)
      have carried : world.carryOutUnder context none operation =
          Caller.wait began.bound began caller := by
        simp [carryOutUnder, Context.check, fired, started, began, caller]
      have continues : Timeline.Continues context
          (world.timeline (signals.map (Prod.mk world.now) ++ triggered) (reply :: replies))
          (began.timeline triggered (reply :: replies)) :=
        Caller.Concludes.continues_of_triggered rfl rfl rfl
      have same : (world.timeline (signals.map (Prod.mk world.now) ++ triggered)
          (reply :: replies)).happenings context (Supervision.start operation world.site) =
          (began.timeline triggered (reply :: replies)).happenings context
            (began.supervision caller.task) := by
        rw [Timeline.happenings, Timeline.happenings, continues.fires?_eq_of_now_eq rfl]
        rfl
      refine ⟨signals.map (Prod.mk world.now) ++ triggered, reply :: replies, ?_, ?_⟩
      · intro planned isPlanned
        rcases List.mem_append.mp isPlanned with triggers | isLater
        · obtain ⟨signal, -, rfl⟩ := List.mem_map.mp triggers
          exact Int.le_refl _
        · exact afterwards planned isLater
      · rw [carried]
        have sameEnd : (world.timeline (signals.map (Prod.mk world.now) ++ triggered)
            (reply :: replies)).endsAt context (Supervision.start operation world.site) =
            (began.timeline triggered (reply :: replies)).endsAt context
              (began.supervision caller.task) :=
          congrArg (Happening.endsAt world.now) same
        have sameReason := continues.reason_eq
          ((began.timeline triggered (reply :: replies)).le_endsAt context
            (began.supervision caller.task))
        refine ⟨fun _ => follows.now.trans sameEnd.symm, ?_⟩
        intro β conclude
        have conducted : (Read.awaiting operation conclude).conduct context
            ((world.timeline (signals.map (Prod.mk world.now) ++ triggered)
              (reply :: replies)).course context (Supervision.start operation world.site))
            world.site = _ :=
          Read.conduct_of_unfired fired
        rw [conducted]
        simp only [Timeline.course, same, sameEnd, sameReason]
        refine ⟨?_, follows.site⟩
        exact congrArg (Option.map conclude) follows.outcome

end World

namespace Session

variable {world : World} {context : Context} {bound : Nat}

/-- In this world taking a read is conducting it through a course that begins now. -/
def Conducts (world : World) (context : Context) (read : Read β α) : Prop :=
  ∃ course account,
    course.now = world.now ∧ course.sent = world.sent ∧
    let conduct := read.conduct context course world.site
    conduct.account? = some account ∧
    (takeRead world context none read).2 = account.outcome ∧
    (takeRead world context none read).1.site =
      account.entries.foldl (fun site entry => site.note (.logged entry)) conduct.site

/-- A world without other operations conducts every read that it is patient with. -/
theorem conducts_of_endsWithin
    {read : Read β α}
    (quiet : world.background = [])
    (within : read.EndsWithin (some world.script.rows.rows.length) bound)
    (patient : bound ≤ world.patience) :
    Conducts world context read := by
  cases read with
  | settled account => exact ⟨⟨world.now, world.sent, [], []⟩, account, rfl, rfl, rfl, rfl, rfl⟩
  | awaiting operation conclude =>
      obtain ⟨triggered, replies, -, -, conducted⟩ := World.conducts quiet within patient
      obtain ⟨ended, sameSite⟩ := conducted conclude
      refine ⟨_, _, rfl, rfl, ended, rfl, ?_⟩
      rw [← sameSite]
      rfl

/-- In a world without other operations every lookup is conducted. -/
theorem conducts_lookUp
    (quiet : world.background = [])
    (repository : Repository)
    (reporter : Reporter)
    (lookup : Lookup)
    (draft : Except Failure Draft) :
    Conducts world context (repository.lookUp reporter lookup draft) := by
  have patient : 3 ≤ world.patience :=
    Nat.le_trans (by decide) (Nat.le_add_left 64 world.script.rows.rows.length)
  exact conducts_of_endsWithin quiet (repository.lookUp_endsWithin reporter lookup draft) patient

/-- In a world without other operations every search is conducted. -/
theorem conducts_search
    (quiet : world.background = [])
    (repository : Repository)
    (reporter : Reporter)
    (search : Search) :
    Conducts world context (repository.search reporter search) := by
  have patient : 3 + (world.script.rows.rows.length + 3) ≤ world.patience := by
    unfold World.patience
    omega
  exact conducts_of_endsWithin quiet (repository.search_endsWithin reporter search _) patient

end Session
end Rehearsal
end InstanceDirectory
