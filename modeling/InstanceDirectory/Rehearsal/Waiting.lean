import InstanceDirectory.Rehearsal.World

/-!
# Waiting for an operation

A caller waits for an operation, perhaps under a context.  The signals that are due are
sent, and what can happen without waiting happens; only then is the caller told to stop,
then the context consulted, and last of all time moves on to the next thing that is due.
A caller that is told to stop while its operation runs under a context goes away at once,
and one whose operation is being cleaned up interrupts the cleanup and waits for its end.
-/

namespace InstanceDirectory
namespace Rehearsal

/-- A caller that waits for an operation. -/
structure Caller (α : Type) where
  /-- The operation. -/
  task : Task α
  /-- The context of the operation; without one the caller carries it out itself. -/
  context : Option Context := none
  /-- When the caller is told to stop. -/
  stopAt : Option Instant := none
  /-- The caller was told to stop while it waited for cleanup. -/
  stopped : Bool := false

namespace Caller

/-- The context has fired while the operation was running. -/
def mustFire (caller : Caller α) (world : World) : Bool :=
  match caller.context with
  | some context => !caller.task.fired && context.hasFired world.sent world.now
  | none => false

/-- The caller is told to stop by now. -/
def mustStop (caller : Caller α) (world : World) : Bool :=
  match caller.stopAt with
  | some moment => moment ≤ world.now
  | none => false

/-- The moments at which something is due. -/
def moments (caller : Caller α) (world : World) : List Instant :=
  caller.task.wake
    :: (caller.stopAt.toList ++ world.pending.map Prod.fst
      ++ (if caller.task.fired then [] else (caller.context.bind Context.deadline).toList)
      ++ world.background.map Task.wake)

/-- The first moment after the present at which something is due. -/
def nextMoment (caller : Caller α) (world : World) : Instant :=
  ((caller.moments world).filter (world.now < ·)).foldl min caller.task.wake

/-- The outcome of a caller whose operation has ended. -/
def outcome (caller : Caller α) (world : World) (ended : Except Failure α) : Except Failure α :=
  if caller.stopped then .error .interrupted
  else
    match caller.context with
    | some context => if caller.task.fired then .error (context.reason world.sent) else ended
    | none => ended

/-- Wait for an operation; the first argument bounds the number of things that happen. -/
def wait : Nat -> World -> Caller α -> World × Except Failure α
  | 0, world, _ => (world, .error .interrupted)
  | fuel + 1, world, caller =>
      if world.isDue then
        wait fuel world.deliver caller
      else
        match caller.task.operation.outcome? with
        | some ended => (world, caller.outcome world ended)
        | none =>
            if caller.task.wake ≤ world.now then
              let (world, task) := world.resume caller.task
              wait fuel world { caller with task }
            else if caller.mustStop world then
              let (world, task) := world.interrupt caller.task
              if caller.context.isSome && !task.fired then
                (world.abandon task, .error .interrupted)
              else
                wait fuel world
                  { caller with task, stopAt := none, stopped := caller.context.isSome }
            else if caller.mustFire world then
              let (world, task) := world.fire caller.task
              wait fuel world { caller with task }
            else
              wait fuel { world with now := caller.nextMoment world }.runBackground caller

end Caller

namespace World

/-- A bound on the number of things that happen while a caller waits. -/
def bound (world : World) : Nat :=
  8 * world.patience * (world.background.length + 2) + 2 * world.pending.length

/-- Carry out an operation in the caller's own task, which may be told to stop. -/
def carryOut (world : World) (stopAt : Option Instant) (operation : Operation α) :
    World × Except Failure α :=
  let (world, task) := world.start operation
  Caller.wait world.bound world { task, stopAt }

/-- Carry out an operation under a context; a context that has fired asks for nothing. -/
def carryOutUnder
    (world : World) (context : Context) (stopAt : Option Instant) (operation : Operation α) :
    World × Except Failure α :=
  match context.check world.sent world.now with
  | .error failure => (world, .error failure)
  | .ok () =>
      let (world, task) := world.start operation
      Caller.wait world.bound world { task, context := some context, stopAt }

/-- Let time pass until a moment. -/
def sleepUntil (world : World) (moment : Instant) : World :=
  (Caller.wait world.bound world
    { task := { operation := (.call .perform .done : Operation Value), wake := moment } }).1

/-- Let time pass, unless the caller is told to stop before. -/
def sleep (world : World) (stopAt : Option Instant) (span : Duration) :
    World × Except Failure Unit :=
  match stopAt.filter (· < world.now + span) with
  | some moment => (world.sleepUntil moment, .error .interrupted)
  | none => (world.sleepUntil (world.now + span), .ok ())

end World
end Rehearsal
end InstanceDirectory
