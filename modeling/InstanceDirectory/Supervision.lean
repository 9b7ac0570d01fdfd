import InstanceDirectory.Context
import InstanceDirectory.Operation

/-!
# Operations under a context

An operation under a context runs until it ends or the context fires.  When the context
fires first, the operation is interrupted at the request it is waiting for, its cleanup
is carried to its end, and the reason of the context takes the place of its outcome.
-/

namespace InstanceDirectory

/-- An operation under a context. -/
structure Supervision (α : Type) where
  /-- The operation, settled. -/
  operation : Operation α
  /-- What the operation shares with others. -/
  site : Site
  /-- The context fired while the operation was running. -/
  fired : Bool := false

/-- What happens next to an operation under a context. -/
inductive Moment where
  /-- The request that the operation is waiting for is answered. -/
  | answered (answerer : Answerer)
  /-- The context fires. -/
  | fired

namespace Supervision

/-- Start an operation. -/
def start (operation : Operation α) (site : Site) : Supervision α :=
  let (operation, site) := operation.settle site
  { operation, site }

/-- Answer the request that the operation is waiting for. -/
def answer (supervision : Supervision α) (answerer : Answerer) : Supervision α :=
  let (operation, site) := supervision.operation.answer answerer supervision.site
  { supervision with operation, site }

/-- The trace of an interruption; waiting for a row leaves none. -/
def noteInterruption (operation : Operation α) (site : Site) : Site :=
  match operation with
  | .call request _ => site.note (.contact (.interrupted request))
  | _ => site

/-- Interrupt the operation at the request it is waiting for. -/
def interrupt (supervision : Supervision α) : Supervision α :=
  { supervision with site := noteInterruption supervision.operation supervision.site }.answer
    Answerer.interruption

/-- Let the context fire: an operation that is running is interrupted. -/
def fire (supervision : Supervision α) : Supervision α :=
  if supervision.fired || supervision.operation.outcome?.isSome then supervision
  else { supervision.interrupt with fired := true }

/-- Take the next moment. -/
def step (supervision : Supervision α) : Moment -> Supervision α
  | .answered answerer => supervision.answer answerer
  | .fired => supervision.fire

/-- The outcome once the operation has ended: the reason of the context if it fired first. -/
def outcome? (reason : Failure) (supervision : Supervision α) : Option (Except Failure α) :=
  supervision.operation.outcome?.map fun outcome =>
    if supervision.fired then .error reason else outcome

end Supervision
end InstanceDirectory
