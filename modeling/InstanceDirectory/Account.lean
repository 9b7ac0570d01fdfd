import InstanceDirectory.Context
import InstanceDirectory.Operation

/-!
# Accounts and reads

An account is an outcome together with the events that were recorded on the way.  A read
is either settled before anything was asked of the store, or it awaits one operation and
gives its account from that operation's outcome.
-/

namespace InstanceDirectory

/-- An outcome with the events recorded on the way. -/
structure Account (α : Type) where
  /-- The recorded events in order. -/
  entries : List LogEntry := []
  /-- The outcome. -/
  outcome : Except Failure α

namespace Account

/-- Record an event and then end with the given outcome; an event that is refused fails. -/
def record (event : Event) (reporter : Reporter) (outcome : Except Failure α) : Account α :=
  match event.record reporter with
  | .ok entry => { entries := [entry], outcome }
  | .error failure => { outcome := .error failure }

/-- Go on from the outcome of an account, keeping its events. -/
def andThen (account : Account α) (next : Except Failure α -> Account β) : Account β :=
  let later := next account.outcome
  { entries := account.entries ++ later.entries, outcome := later.outcome }

end Account

/-- A read that awaits an operation answering `β` and ends in an `α`. -/
inductive Read (β α : Type) where
  /-- Nothing is asked of the store. -/
  | settled (account : Account α)
  /-- The operation is carried out under the caller's context. -/
  | awaiting (operation : Operation β) (conclude : Except Failure β -> Account α)

namespace Read

/-- Extend the account of a read. -/
def mapAccount (read : Read γ α) (next : Account α -> Account β) : Read γ β :=
  match read with
  | settled account => settled (next account)
  | awaiting operation conclude => awaiting operation fun outcome => next (conclude outcome)

end Read
end InstanceDirectory
