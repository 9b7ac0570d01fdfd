import InstanceDirectory.Rehearsal.Script
import InstanceDirectory.Supervision

/-!
# The rehearsed world

Time is virtual and stands still while anything can happen.  A task is an operation with
the moment at which its request is answered; operations whose caller has gone are carried
on in the background, and share the pool and the journal with all others.
-/

namespace InstanceDirectory
namespace Rehearsal

/-- An operation that waits for an answer. -/
structure Task (α : Type) where
  /-- The operation, settled. -/
  operation : Operation α
  /-- The context fired while the operation was running. -/
  fired : Bool := false
  /-- When the request is answered. -/
  wake : Instant
  /-- How the request is answered. -/
  cue : Cue := {}

/-- Everything that steps of a rehearsal share. -/
structure World where
  /-- The present. -/
  now : Instant := 1000000000
  /-- The cancel signals that were sent. -/
  sent : List Signal := []
  /-- The cancel signals that are still to be sent from outside, and when. -/
  pending : List (Instant × Signal) := []
  /-- The number of cancel signals that exist. -/
  signals : Nat := 0
  /-- The contexts by name. -/
  contexts : List (String × Context) := []
  /-- How the store answers. -/
  script : Script := {}
  /-- The pool and the journal. -/
  site : Site := {}
  /-- How many connections the open pool has lent so far. -/
  lent : Nat := 0
  /-- Operations whose caller has gone. -/
  background : List (Task Unit) := []

namespace World

/-- The context of a given name. -/
def context? (world : World) (name : String) : Option Context :=
  (world.contexts.find? fun entry => entry.1 == name).map Prod.snd

/-- Name a context; an earlier one of that name is forgotten. -/
def setContext (world : World) (name : String) (context : Context) : World :=
  { world with
    contexts := (name, context) :: world.contexts.filter fun entry => entry.1 != name }

/-- Send a cancel signal. -/
def send (world : World) (signal : Signal) : World :=
  { world with sent := if world.sent.contains signal then world.sent else signal :: world.sent }

/-- Arrange for a cancel signal to be sent at a later moment. -/
def plan (world : World) (moment : Instant) (signal : Signal) : World :=
  { world with pending := world.pending ++ [(moment, signal)] }

/-- A cancel signal from outside is to be sent by now. -/
def isDue (world : World) : Bool :=
  world.pending.any fun planned => planned.1 ≤ world.now

/-- Send the cancel signals that are to be sent by now. -/
def deliver (world : World) : World :=
  let (due, later) := world.pending.partition fun planned => planned.1 ≤ world.now
  (due.map Prod.snd).foldl send { world with pending := later }

/-- Cancel the context of a given name, if there is one. -/
def cancel (world : World) (name : Option String) : World :=
  match name.bind world.context? with
  | some context => world.send context.signal
  | none => world

/-- Let a settled operation wait for the answer to its request. -/
def await (world : World) (operation : Operation α) (fired : Bool) : World × Task α :=
  match operation.request? with
  | none => (world, { operation, fired, wake := world.now })
  | some request =>
      let cue := world.script.cue request
      (world.cancel cue.cancels,
        { operation, fired, wake := world.now + max cue.delay 0, cue })

/-- The answer that a cue gives to a request. -/
def answerOf (world : World) (cue : Cue) (position : Nat) : Answerer :=
  fun request =>
    match request, cue.failure with
    | .nextRow, _ => world.script.rows.answer position
    | _, some failure => .error failure
    | .perform, none => .ok cue.value
    | .fetchRow _ _, none => .ok cue.value
    | .acquire, none => .ok (world.lent + 1)
    | .createPool _, none => .ok ()
    | .closePool, none => .ok ()
    | .release _, none => .ok ()
    | .beginTransaction _, none => .ok ()
    | .rollback _, none => .ok ()
    | .openRows _, none => .ok ()
    | .closeRows, none => .ok ()

/-- The number of rows that an operation has kept. -/
def keptRows : Operation α -> Nat
  | .rows kept _ _ => kept.length
  | _ => 0

/-- Count connections: a lent one is one more, and a new pool has lent none. -/
def countConnections (world : World) (request : Option Request) (cue : Cue) : World :=
  match request, cue.failure with
  | some .acquire, none => { world with lent := world.lent + 1 }
  | some (.createPool _), none => { world with lent := 0 }
  | _, _ => world

/-- The operation of a task together with the world's site. -/
def supervision (world : World) (task : Task α) : Supervision α where
  operation := task.operation
  site := world.site
  fired := task.fired

/-- Write back what an operation has done, and let it wait again. -/
def enact (world : World) (supervision : Supervision α) : World × Task α :=
  { world with site := supervision.site }.await supervision.operation supervision.fired

/-- Start an operation. -/
def start (world : World) (operation : Operation α) : World × Task α :=
  world.enact (Supervision.start operation world.site)

/-- Answer the request of a task. -/
def resume (world : World) (task : Task α) : World × Task α :=
  let answerer := world.answerOf task.cue (keptRows task.operation)
  let supervision := (world.supervision task).answer answerer
  (world.countConnections task.operation.request? task.cue).enact supervision

/-- Interrupt a task at its request. -/
def interrupt (world : World) (task : Task α) : World × Task α :=
  world.enact (world.supervision task).interrupt

/-- Let the context of a task fire. -/
def fire (world : World) (task : Task α) : World × Task α :=
  world.enact (world.supervision task).fire

/-- Answer the requests of a task that are answered by now; the first argument bounds them. -/
def catchUp : Nat -> World -> Task α -> World × Task α
  | 0, world, task => (world, task)
  | fuel + 1, world, task =>
      if task.operation.outcome?.isNone && task.wake ≤ world.now then
        let (world, task) := world.resume task
        catchUp fuel world task
      else (world, task)

/-- A bound on the number of answers that any task of the world still needs. -/
def patience (world : World) : Nat :=
  world.script.rows.rows.length + 64

/-- Carry on one task of the background. -/
def carryOn (world : World) (task : Task Unit) : World :=
  let (world, task) := catchUp world.patience world task
  if task.operation.outcome?.isSome then world
  else { world with background := world.background ++ [task] }

/-- Carry on the tasks of the background up to the present. -/
def runBackground (world : World) : World :=
  world.background.foldl carryOn { world with background := [] }

/-- Leave a task to the background. -/
def abandon (world : World) (task : Task α) : World :=
  world.carryOn
    { operation := task.operation.attempt fun _ => .succeed ()
      fired := task.fired
      wake := task.wake
      cue := task.cue }

end World
end Rehearsal
end InstanceDirectory
