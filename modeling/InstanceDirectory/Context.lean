import InstanceDirectory.Failure
import InstanceDirectory.Observation

/-!
# Caller contexts

A context is created for one request and handed to every read.  It carries a deadline, a
cancel signal that derived contexts share, and the observation for events.  Bounding a
context only ever makes its deadline earlier.
-/

namespace InstanceDirectory

/-- A moment on the clock, in microseconds. -/
abbrev Instant : Type := Int

/-- A span of time, in microseconds. -/
abbrev Duration : Type := Int

/-- A cancel signal, told apart by its number. -/
abbrev Signal : Type := Nat

/-- What a caller hands to a read. -/
structure Context where
  /-- The moment after which operations are abandoned. -/
  deadline : Option Instant := none
  /-- Metadata for every event of the call. -/
  observation : Observation := {}
  /-- The signal that cancels this context and all contexts derived from it. -/
  signal : Signal
deriving Inhabited

namespace Context

/-- A context whose deadline is a span from now; without a span it has none. -/
def create
    (now : Instant) (span : Option Duration) (observation : Observation) (signal : Signal) :
    Context where
  deadline := span.map (now + ·)
  observation := observation
  signal := signal

/-- The deadline is not later than a span from now. -/
def isDueWithin (context : Context) (now : Instant) (span : Duration) : Bool :=
  match context.deadline with
  | some deadline => deadline ≤ now + span
  | none => false

/--
The context due within a span, with the same signal; the earlier of the two deadlines
wins.  Without a span it is the context itself.
-/
def bounded (context : Context) (now : Instant) (span : Option Duration) : Context :=
  match span with
  | none => context
  | some span =>
      if context.isDueWithin now span then context
      else { context with deadline := some (now + span) }

@[simp] theorem signal_bounded
    (context : Context)
    (now : Instant)
    (span : Option Duration) :
    (context.bounded now span).signal = context.signal := by
  unfold bounded
  split
  · rfl
  · split <;> rfl

@[simp] theorem observation_bounded
    (context : Context)
    (now : Instant)
    (span : Option Duration) :
    (context.bounded now span).observation = context.observation := by
  unfold bounded
  split
  · rfl
  · split <;> rfl

@[simp] theorem bounded_none (context : Context) (now : Instant) :
    context.bounded now none = context := rfl

/-- The deadline of a bounded context is the earlier one of the two. -/
theorem deadline_bounded_some
    (context : Context)
    (now : Instant)
    (span : Duration) :
    (context.bounded now (some span)).deadline =
      some ((context.deadline.map (min (now + span))).getD (now + span)) := by
  cases deadlineValue : context.deadline with
  | none => simp [bounded, isDueWithin, deadlineValue]
  | some deadline =>
      by_cases early : deadline ≤ now + span
      · simp only [bounded, isDueWithin, deadlineValue, early, decide_true, if_true,
          Option.map_some, Option.getD_some, Int.min_eq_right early]
      · have late : now + span ≤ deadline := Int.le_of_lt (Int.not_le.mp early)
        simp only [bounded, isDueWithin, deadlineValue, early, decide_false, Bool.false_eq_true,
          if_false, Option.map_some, Option.getD_some, Int.min_eq_left late]

/-- Decide whether bounding leaves a context as it is. -/
def isUnboundedBy (context : Context) (now : Instant) (span : Option Duration) : Bool :=
  match span with
  | none => true
  | some span => context.isDueWithin now span

/-- The time left until the deadline, never negative. -/
def remaining (context : Context) (now : Instant) : Option Duration :=
  context.deadline.map fun deadline => max (deadline - now) 0

/-- Decide whether the deadline has come. -/
def isDue (context : Context) (now : Instant) : Bool :=
  match context.deadline with
  | some deadline => deadline ≤ now
  | none => false

/-- Decide whether a context is cancelled, given the signals that were sent. -/
def isCancelled (context : Context) (sent : List Signal) : Bool :=
  sent.contains context.signal

/-- Decide whether operations under a context have to stop. -/
def hasFired (context : Context) (sent : List Signal) (now : Instant) : Bool :=
  context.isCancelled sent || context.isDue now

/-- Why operations under a fired context stop: a cancellation counts before the deadline. -/
def reason (context : Context) (sent : List Signal) : Failure :=
  if context.isCancelled sent then .contextCancelled else .deadlineExceeded

/-- The failure of a context that has fired. -/
def check (context : Context) (sent : List Signal) (now : Instant) : Except Failure Unit :=
  if context.hasFired sent now then .error (context.reason sent) else .ok ()

end Context
end InstanceDirectory
