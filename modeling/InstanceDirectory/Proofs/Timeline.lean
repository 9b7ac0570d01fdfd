import InstanceDirectory.Proofs.Conduct

/-!
# Timelines

A timeline says when everything around an operation happens: how long each of its requests
takes, and which cancel signals are sent when.  The context fires at the first moment at
which it is cancelled or due.  An operation under the context is answered as long as its
answers arrive by that moment.  The first answer that does not is replaced by the firing of
the context, and from then on everything is answered again, as it is cleanup.
-/

namespace InstanceDirectory

/-- How one request is answered. -/
structure Reply where
  /-- The time until the answer arrives; without it no answer ever does. -/
  span : Option Nat
  /-- The answer. -/
  answerer : Answerer

/-- The reply that never arrives. -/
def Reply.never : Reply where
  span := none
  answerer := Answerer.interruption

/-- When things happen around an operation. -/
structure Timeline where
  /-- The moment at which the operation is started. -/
  now : Instant
  /-- The cancel signals that were sent before. -/
  sent : List Signal
  /-- The cancel signals that are sent afterwards, and when. -/
  signals : List (Instant × Signal)
  /-- The replies to requests in their order; later requests are never answered. -/
  replies : List Reply

/-- A moment of an operation with its time. -/
structure Happening where
  /-- When it happens. -/
  time : Instant
  /-- What happens. -/
  moment : Moment

/-- The time of the last of the happenings, or of the start if there are none. -/
def Happening.endsAt (now : Instant) (happenings : List Happening) : Instant :=
  (happenings.getLast?.map Happening.time).getD now

@[simp] theorem Happening.endsAt_nil (now : Instant) : endsAt now [] = now := rfl

@[simp] theorem Happening.endsAt_cons
    (now : Instant)
    (happening : Happening)
    (happenings : List Happening) :
    endsAt now (happening :: happenings) = endsAt happening.time happenings := by
  cases happenings with
  | nil => rfl
  | cons next happenings => simp [endsAt, List.getLast?_cons]

theorem Happening.endsAt_append
    (now : Instant)
    (first second : List Happening) :
    endsAt now (first ++ second) = endsAt (endsAt now first) second := by
  induction first generalizing now with
  | nil => rfl
  | cons happening first firstHypothesis =>
      rw [List.cons_append, endsAt_cons, endsAt_cons, firstHypothesis]

/-- The start matters for the end only as long as nothing happens. -/
theorem Happening.endsAt_congr
    {now later : Instant}
    {happenings : List Happening}
    (nonempty : happenings ≠ []) :
    endsAt now happenings = endsAt later happenings := by
  cases happenings with
  | nil => contradiction
  | cons happening happenings => rw [endsAt_cons, endsAt_cons]

namespace Timeline

variable {timeline other : Timeline} {context : Context} {time fire : Instant}

/-- The cancel signals that were sent by a moment. -/
def sentBy (timeline : Timeline) (time : Instant) : List Signal :=
  timeline.sent ++ (timeline.signals.filter fun planned => planned.1 ≤ time).map Prod.snd

theorem mem_sentBy {signal : Signal} :
    signal ∈ timeline.sentBy time ↔
      signal ∈ timeline.sent ∨ ∃ planned ∈ timeline.signals,
        planned.1 ≤ time ∧ planned.2 = signal := by
  simp only [sentBy, List.mem_append, List.mem_map, List.mem_filter, decide_eq_true_eq, and_assoc]

/-- The moments by which a context has a reason to fire. -/
def causes (timeline : Timeline) (context : Context) : List Instant :=
  context.deadline.toList ++
    ((if context.isCancelled timeline.sent then [timeline.now] else []) ++
      (timeline.signals.filter fun planned => planned.2 == context.signal).map Prod.fst)

/-- The moment at which a context fires, if it ever does. -/
def fires? (timeline : Timeline) (context : Context) : Option Instant :=
  ((timeline.causes context).map (max timeline.now)).min?

/-- A context has fired by a moment when there was a reason by then. -/
theorem hasFired_sentBy_iff (started : timeline.now ≤ time) :
    context.hasFired (timeline.sentBy time) time ↔
      ∃ cause ∈ timeline.causes context, cause ≤ time := by
  have due : context.isDue time ↔ ∃ cause ∈ context.deadline.toList, cause ≤ time := by
    unfold Context.isDue
    cases context.deadline <;> simp
  have before : context.signal ∈ timeline.sent ↔
      ∃ cause ∈ (if context.isCancelled timeline.sent then [timeline.now] else []),
        cause ≤ time := by
    unfold Context.isCancelled
    by_cases cancelled : context.signal ∈ timeline.sent <;> simp [cancelled, started]
  have afterwards : (∃ planned ∈ timeline.signals,
        planned.1 ≤ time ∧ planned.2 = context.signal) ↔
      ∃ cause ∈ (timeline.signals.filter fun planned =>
        planned.2 == context.signal).map Prod.fst, cause ≤ time := by
    constructor
    · rintro ⟨planned, isPlanned, reached, same⟩
      have isCause : planned ∈ timeline.signals.filter fun planned =>
          planned.2 == context.signal := by simp [isPlanned, same]
      exact ⟨planned.1, List.mem_map_of_mem isCause, reached⟩
    · rintro ⟨cause, isCause, reached⟩
      obtain ⟨planned, isPlanned, rfl⟩ := List.mem_map.mp isCause
      obtain ⟨isPlanned, same⟩ := List.mem_filter.mp isPlanned
      exact ⟨planned, isPlanned, reached, by simpa using same⟩
  have cancelled : context.isCancelled (timeline.sentBy time) ↔
      context.signal ∈ timeline.sentBy time := List.contains_iff_mem
  rw [Context.hasFired, Bool.or_eq_true, cancelled, mem_sentBy, due, before, afterwards]
  simp only [causes, List.mem_append, or_and_right, exists_or]
  rw [or_comm]

theorem hasFired_sentBy_eq_false_iff (started : timeline.now ≤ time) :
    context.hasFired (timeline.sentBy time) time = false ↔
      ∀ cause ∈ timeline.causes context, time < cause := by
  rw [← Bool.not_eq_true, hasFired_sentBy_iff started]
  simp only [not_exists, not_and, Int.not_le]

/-- The context fires at the first moment, from the start on, by which it has fired. -/
theorem fires?_eq_some_iff :
    timeline.fires? context = some fire ↔
      timeline.now ≤ fire ∧ context.hasFired (timeline.sentBy fire) fire ∧
        ∀ time, timeline.now ≤ time -> time < fire ->
          context.hasFired (timeline.sentBy time) time = false := by
  rw [fires?, List.min?_eq_some_iff]
  simp only [List.mem_map, forall_exists_index, and_imp, forall_apply_eq_imp_iff₂]
  constructor
  · rintro ⟨⟨cause, isCause, rfl⟩, least⟩
    refine ⟨Int.le_max_left _ _, ?_, ?_⟩
    · exact (hasFired_sentBy_iff (Int.le_max_left _ _)).mpr ⟨cause, isCause, Int.le_max_right _ _⟩
    · intro time started early
      rw [hasFired_sentBy_eq_false_iff started]
      intro other isOther
      have later := least other isOther
      grind
  · rintro ⟨started, fired, unfired⟩
    obtain ⟨cause, isCause, reached⟩ := (hasFired_sentBy_iff started).mp fired
    have least : ∀ other ∈ timeline.causes context, fire ≤ max timeline.now other := by
      intro other isOther
      by_cases early : max timeline.now other < fire
      · have quiet := unfired _ (Int.le_max_left timeline.now other) early
        rw [hasFired_sentBy_eq_false_iff (Int.le_max_left _ _)] at quiet
        have apart := quiet other isOther
        grind
      · grind
    refine ⟨⟨cause, isCause, ?_⟩, least⟩
    have notEarly := least cause isCause
    grind

theorem fires?_eq_none_iff :
    timeline.fires? context = none ↔
      ∀ time, timeline.now ≤ time -> context.hasFired (timeline.sentBy time) time = false := by
  rw [fires?, List.min?_eq_none_iff, List.map_eq_nil_iff]
  constructor
  · intro none time started
    rw [hasFired_sentBy_eq_false_iff started, none]
    exact nofun
  · intro quiet
    rw [List.eq_nil_iff_forall_not_mem]
    intro cause isCause
    have apart := (hasFired_sentBy_eq_false_iff (Int.le_max_left _ cause)).mp
      (quiet _ (Int.le_max_left _ cause)) cause isCause
    grind

/-- From its start on the second timeline cancels a context exactly when the first does. -/
def Continues (context : Context) (timeline other : Timeline) : Prop :=
  ∀ time, other.now ≤ time ->
    context.isCancelled (timeline.sentBy time) = context.isCancelled (other.sentBy time)

namespace Continues

/-- Why a context fires is the same on both timelines. -/
theorem reason_eq
    (continues : Continues context timeline other)
    (reached : other.now ≤ time) :
    context.reason (timeline.sentBy time) = context.reason (other.sentBy time) := by
  rw [Context.reason, Context.reason, continues time reached]

/-- When a context fires is the same as well, unless it has fired before the second timeline. -/
theorem fires?_eq
    (continues : Continues context timeline other)
    (later : timeline.now ≤ other.now)
    (unfired : ∀ time, timeline.now ≤ time -> time < other.now ->
      context.hasFired (timeline.sentBy time) time = false) :
    timeline.fires? context = other.fires? context := by
  have same (time : Instant) (reached : other.now ≤ time) :
      context.hasFired (timeline.sentBy time) time = context.hasFired (other.sentBy time) time := by
    rw [Context.hasFired, Context.hasFired, continues time reached]
  have quiet (time : Instant) (began : timeline.now ≤ time)
      (elsewhere : other.now ≤ time -> context.hasFired (other.sentBy time) time = false) :
      context.hasFired (timeline.sentBy time) time = false := by
    by_cases before : time < other.now
    · exact unfired time began before
    · have reached : other.now ≤ time := Int.not_lt.mp before
      rw [same time reached]
      exact elsewhere reached
  cases fires : other.fires? context with
  | none =>
      rw [fires?_eq_none_iff] at fires ⊢
      intro time began
      exact quiet time began (fires time)
  | some fire =>
      rw [fires?_eq_some_iff] at fires ⊢
      obtain ⟨started, fired, unfiredBefore⟩ := fires
      rw [← same fire started] at fired
      refine ⟨Int.le_trans later started, fired, ?_⟩
      intro time began early
      exact quiet time began fun reached => unfiredBefore time reached early

/-- When the two begin at the same moment, nothing can have fired between. -/
theorem fires?_eq_of_now_eq
    (continues : Continues context timeline other)
    (sameStart : other.now = timeline.now) :
    timeline.fires? context = other.fires? context := by
  apply continues.fires?_eq
  · exact Int.le_of_eq sameStart.symm
  · intro time began before
    rw [sameStart] at before
    exact absurd before (Int.not_lt.mpr began)

end Continues

/-- A context that has fired before the start fires at once. -/
theorem fires?_of_hasFired
    (fired : context.hasFired timeline.sent timeline.now) :
    timeline.fires? context = some timeline.now := by
  rw [fires?_eq_some_iff]
  refine ⟨Int.le_refl _, ?_, ?_⟩
  · simp only [Context.hasFired, Context.isCancelled, Bool.or_eq_true,
      List.contains_iff_mem] at fired ⊢
    exact fired.imp_left fun sent => mem_sentBy.mpr (.inl sent)
  · intro time began early
    exact absurd began (Int.not_le.mpr early)

/-- A context never fires before the start. -/
theorem le_of_fires? (fires : timeline.fires? context = some fire) : timeline.now ≤ fire :=
  (fires?_eq_some_iff.mp fires).1

end Timeline

namespace Supervision

variable {supervision : Supervision α} {fires : Option Instant} {now fire : Instant}
  {reply : Reply} {replies : List Reply}

/--
What happens next to an operation: its request is answered unless the context fires before
the answer arrives.  A context fires once at most.
-/
def next?
    (supervision : Supervision α) (fires : Option Instant) (now : Instant) (reply : Reply) :
    Option Happening :=
  if supervision.operation.outcome?.isSome then none
  else
    match reply.span, if supervision.fired then none else fires with
    | some span, some fire =>
        if now + span ≤ fire then some ⟨now + span, .answered reply.answerer⟩
        else some ⟨fire, .fired⟩
    | some span, none => some ⟨now + span, .answered reply.answerer⟩
    | none, some fire => some ⟨fire, .fired⟩
    | none, none => none

/-- Everything that happens to an operation whose context fires at a moment, or never. -/
def happenings
    (supervision : Supervision α) (fires : Option Instant) (now : Instant) :
    List Reply -> List Happening
  | [] => (supervision.next? fires now .never).toList
  | reply :: replies =>
      match supervision.next? fires now reply with
      | none => []
      | some happening =>
          happening ::
            (supervision.step happening.moment).happenings fires happening.time replies

theorem next?_of_outcome?
    {outcome : Except Failure α}
    (ended : supervision.operation.outcome? = some outcome) :
    supervision.next? fires now reply = none := by
  simp [next?, ended]

/-- Nothing happens to an operation that has ended. -/
theorem happenings_of_outcome?
    {outcome : Except Failure α}
    (ended : supervision.operation.outcome? = some outcome) :
    supervision.happenings fires now replies = [] := by
  cases replies <;> simp [happenings, next?_of_outcome? ended]

/-- An answer that arrives by the moment at which the context fires comes next. -/
theorem next?_of_answered
    {span : Nat}
    (unended : supervision.operation.outcome? = none)
    (arrives : reply.span = some span)
    (onTime : supervision.fired = false -> ∀ fire, fires = some fire -> now + span ≤ fire) :
    supervision.next? fires now reply = some ⟨now + span, .answered reply.answerer⟩ := by
  cases fired : supervision.fired with
  | true => simp [next?, unended, arrives, fired]
  | false =>
      cases foreseen : fires with
      | none => simp [next?, unended, arrives, fired]
      | some fire =>
          have reached := onTime fired fire foreseen
          simp [next?, unended, arrives, fired, reached]

/-- The context fires next if the answer does not arrive by then. -/
theorem next?_of_late
    (unended : supervision.operation.outcome? = none)
    (unfired : supervision.fired = false)
    (late : ∀ span : Nat, reply.span = some span -> fire < now + span) :
    supervision.next? (some fire) now reply = some ⟨fire, .fired⟩ := by
  cases arrives : reply.span with
  | none => simp [next?, unended, arrives, unfired]
  | some span =>
      have missed : ¬ now + span ≤ fire := Int.not_le.mpr (late span arrives)
      simp [next?, unended, arrives, unfired, missed]

theorem happenings_cons
    {happening : Happening}
    (next : supervision.next? fires now reply = some happening) :
    supervision.happenings fires now (reply :: replies) =
      happening ::
        (supervision.step happening.moment).happenings fires happening.time replies := by
  simp only [happenings, next]

/-- Of a reply it only matters when it arrives. -/
theorem happenings_congr
    {later : Instant}
    {span laterSpan : Nat}
    {answerer : Answerer}
    (sameTime : now + span = later + laterSpan) :
    supervision.happenings fires now (⟨some span, answerer⟩ :: replies) =
      supervision.happenings fires later (⟨some laterSpan, answerer⟩ :: replies) := by
  have next? : supervision.next? fires now ⟨some span, answerer⟩ =
      supervision.next? fires later ⟨some laterSpan, answerer⟩ := by
    unfold next?
    cases (if supervision.fired then none else fires) with
    | none => simp only [sameTime]
    | some fire => simp only [sameTime]
  rw [happenings, happenings, next?]

/-- Something happens to an operation that waits for a reply. -/
theorem happenings_ne_nil
    {span : Nat}
    {answerer : Answerer}
    (unended : supervision.operation.outcome? = none) :
    supervision.happenings fires now (⟨some span, answerer⟩ :: replies) ≠ [] := by
  have next? : ∃ happening, supervision.next? fires now ⟨some span, answerer⟩ =
      some happening := by
    simp only [next?, unended, Option.isSome_none, Bool.false_eq_true, if_false]
    split
    · split <;> exact ⟨_, rfl⟩
    · exact ⟨_, rfl⟩
    · exact ⟨_, rfl⟩
    · contradiction
  obtain ⟨happening, next⟩ := next?
  rw [happenings_cons next]
  exact List.cons_ne_nil _ _

/-- A context that has fired does not fire again. -/
theorem happenings_of_fired (fired : supervision.fired) :
    supervision.happenings fires now replies = supervision.happenings none now replies := by
  induction replies generalizing supervision now with
  | nil => simp [happenings, next?, fired]
  | cons reply replies repliesHypothesis =>
      have same : supervision.next? fires now reply = supervision.next? none now reply := by
        simp [next?, fired]
      unfold happenings
      rw [same]
      cases supervision.next? none now reply with
      | none => rfl
      | some happening =>
          exact congrArg (happening :: ·) (repliesHypothesis (fired_step fired _))

/-- When its context fires, an operation that is running is interrupted. -/
theorem fired_fire (unended : supervision.operation.outcome? = none) :
    supervision.fire.fired := by
  unfold fire
  cases fired : supervision.fired <;> simp [unended, fired]

/--
What happens next is the answer, if it arrives by the moment at which the context fires, or
the firing, if it does not.
-/
theorem next?_cases
    {happening : Happening}
    (next : supervision.next? fires now reply = some happening) :
    supervision.operation.outcome? = none ∧
    ((∃ span : Nat, reply.span = some span ∧
        happening = ⟨now + span, .answered reply.answerer⟩ ∧
        (supervision.fired = false -> ∀ fire, fires = some fire -> now + span ≤ fire)) ∨
      (supervision.fired = false ∧ ∃ fire, fires = some fire ∧ happening = ⟨fire, .fired⟩)) := by
  unfold next? at next
  split at next
  · cases next
  · rename_i running
    refine ⟨by simpa using running, ?_⟩
    split at next
    · rename_i span fire arrives foreseen
      obtain ⟨unfired, rfl⟩ : supervision.fired = false ∧ fires = some fire := by
        simpa using foreseen
      split at next
      · rename_i onTime
        cases next
        refine .inl ⟨span, arrives, rfl, ?_⟩
        rintro - _ ⟨⟩
        exact onTime
      · cases next
        exact .inr ⟨unfired, fire, rfl, rfl⟩
    · rename_i span arrives unforeseen
      cases next
      refine .inl ⟨span, arrives, rfl, ?_⟩
      rintro unfired fire rfl
      simp [unfired] at unforeseen
    · rename_i fire _ foreseen
      obtain ⟨unfired, rfl⟩ : supervision.fired = false ∧ fires = some fire := by
        simpa using foreseen
      cases next
      exact .inr ⟨unfired, fire, rfl, rfl⟩
    · cases next

/-- Time never runs backwards. -/
theorem le_endsAt_happenings
    (ahead : supervision.fired = false -> ∀ fire, fires = some fire -> now ≤ fire) :
    now ≤ Happening.endsAt now (supervision.happenings fires now replies) := by
  have step {happening : Happening} {reply : Reply} {supervision : Supervision α} {now : Instant}
      (ahead : supervision.fired = false -> ∀ fire, fires = some fire -> now ≤ fire)
      (next : supervision.next? fires now reply = some happening) :
      now ≤ happening.time ∧ ((supervision.step happening.moment).fired = false ->
        ∀ fire, fires = some fire -> happening.time ≤ fire) := by
    obtain ⟨unended, ⟨span, -, rfl, onTime⟩ | ⟨unfired, fire, rfl, rfl⟩⟩ := next?_cases next
    · exact ⟨Int.le_add_of_nonneg_right (Int.natCast_nonneg span), onTime⟩
    · refine ⟨ahead unfired fire rfl, ?_⟩
      intro unfired
      have fired := fired_fire unended
      exact absurd (unfired.symm.trans fired) Bool.false_ne_true
  induction replies generalizing supervision now with
  | nil =>
      unfold happenings
      cases next : supervision.next? fires now .never with
      | none => exact Int.le_refl now
      | some happening =>
          rw [Option.toList_some, Happening.endsAt_cons]
          exact (step ahead next).1
  | cons reply replies repliesHypothesis =>
      unfold happenings
      cases next : supervision.next? fires now reply with
      | none => exact Int.le_refl now
      | some happening =>
          obtain ⟨later, stillAhead⟩ := step ahead next
          rw [Happening.endsAt_cons]
          exact Int.le_trans later (repliesHypothesis stillAhead)

/-- An operation that waits past a moment has nothing happen to it by then. -/
theorem takeWhile_happenings_of_late
    (unended : supervision.operation.outcome? = none)
    (late : ∀ span : Nat, reply.span = some span -> fire < now + span) :
    ((supervision.happenings none now (reply :: replies)).takeWhile fun happening =>
      happening.time ≤ fire) = [] := by
  cases arrives : reply.span with
  | none => simp [happenings, next?, unended, arrives]
  | some span =>
      have alone : supervision.next? none now reply =
          some ⟨now + span, .answered reply.answerer⟩ :=
        next?_of_answered unended arrives fun _ _ => nofun
      rw [happenings_cons alone]
      exact List.takeWhile_cons_of_neg (by simpa using late span arrives)

/--
Until its context fires an operation goes its own way.  If it has not ended by then it is
interrupted, and its cleanup goes its own way with the replies that are left.
-/
theorem happenings_some
    (unfired : supervision.fired = false) :
    let early := (supervision.happenings none now replies).takeWhile fun happening =>
      happening.time ≤ fire
    let reached := supervision.after (early.map Happening.moment)
    supervision.happenings (some fire) now replies =
      match reached.operation.outcome? with
      | some _ => early
      | none =>
          early ++ ⟨fire, .fired⟩ ::
            reached.fire.happenings none fire (replies.drop (early.length + 1)) := by
  induction replies generalizing supervision now with
  | nil =>
      cases ended : supervision.operation.outcome? with
      | some outcome => simp [happenings, next?, ended]
      | none => simp [happenings, next?, ended, unfired, Reply.never]
  | cons reply replies repliesHypothesis =>
      cases ended : supervision.operation.outcome? with
      | some outcome => simp [happenings_of_outcome? ended, ended]
      | none =>
          have cleansUp : (supervision.step .fired).happenings (some fire) fire replies =
              supervision.fire.happenings none fire replies :=
            happenings_of_fired (fired_fire ended)
          by_cases onTime : ∃ span : Nat, reply.span = some span ∧ now + span ≤ fire
          · obtain ⟨span, arrives, onTime⟩ := onTime
            have answered : supervision.next? (some fire) now reply =
                some ⟨now + span, .answered reply.answerer⟩ := by
              apply next?_of_answered ended arrives
              rintro - _ ⟨⟩
              exact onTime
            have alone : supervision.next? none now reply =
                some ⟨now + span, .answered reply.answerer⟩ :=
              next?_of_answered ended arrives fun _ _ => nofun
            have later := @repliesHypothesis (supervision.step (.answered reply.answerer))
              (now + span) unfired
            rw [happenings_cons answered, happenings_cons alone]
            simp only [onTime, decide_true, List.takeWhile_cons_of_pos, List.map_cons, after_cons,
              List.length_cons, List.drop_succ_cons, List.cons_append]
            simp only [later]
            split <;> rfl
          · have late : ∀ span : Nat, reply.span = some span -> fire < now + span := by
              intro span arrives
              exact Int.not_le.mp fun inTime => onTime ⟨span, arrives, inTime⟩
            rw [takeWhile_happenings_of_late ended late,
              happenings_cons (next?_of_late ended unfired late), cleansUp]
            simp [ended]

end Supervision

namespace Timeline

/-- Everything that happens to an operation under a context. -/
def happenings
    (timeline : Timeline) (context : Context) (running : Supervision α) : List Happening :=
  running.happenings (timeline.fires? context) timeline.now timeline.replies

/-- The moment at which all this is over. -/
def endsAt (timeline : Timeline) (context : Context) (running : Supervision α) : Instant :=
  Happening.endsAt timeline.now (timeline.happenings context running)

theorem le_endsAt
    (timeline : Timeline)
    (context : Context)
    (running : Supervision α) :
    timeline.now ≤ timeline.endsAt context running :=
  Supervision.le_endsAt_happenings fun _ _ fires => le_of_fires? fires

/-- What happens by the moment at which the context fires to an operation that is left alone. -/
def early
    (timeline : Timeline) (context : Context) (running : Supervision α) : List Happening :=
  let alone := running.happenings none timeline.now timeline.replies
  match timeline.fires? context with
  | none => alone
  | some fire => alone.takeWhile fun happening => happening.time ≤ fire

/-- The operation as it is when that has happened. -/
def reached
    (timeline : Timeline) (context : Context) (running : Supervision α) : Supervision α :=
  running.after ((timeline.early context running).map Happening.moment)

/-- What happens to an operation that is interrupted then and cleans up. -/
def cleanup
    (timeline : Timeline) (context : Context) (running : Supervision α) (fire : Instant) :
    List Happening :=
  (timeline.reached context running).fire.happenings none fire
    (timeline.replies.drop ((timeline.early context running).length + 1))

/-- The course that an operation takes under a context. -/
def course (timeline : Timeline) (context : Context) (running : Supervision α) : Course where
  now := timeline.now
  sent := timeline.sent
  moments := (timeline.happenings context running).map Happening.moment
  sentLater := timeline.sentBy (timeline.endsAt context running)

/-- What comes of an operation under a context, with its account. -/
def conduct
    (timeline : Timeline) (context : Context) (operation : Operation β)
    (conclude : Except Failure β -> Account α) (site : Site) : Conduct α :=
  (Read.awaiting operation conclude).conduct context
    (timeline.course context (.start operation site)) site

end Timeline
end InstanceDirectory
