import InstanceDirectory.Failure

/-!
# Observations

An observation is what a caller wants to find on every event of a call.  It never
decides anything: its entries are only attached to events.
-/

namespace InstanceDirectory

/-- Metadata of a request. -/
structure Observation where
  /-- Identifier of the request. -/
  requestId : Option String := none
  /-- Identifier of the user. -/
  userId : Option String := none
  /-- The instance that the request was resolved to, when it is known already. -/
  instanceId : Option String := none
  /-- Further entries. -/
  extra : Fields := []
deriving Inhabited

namespace Observation

/-- The entries that are present; a further entry replaces a named one of the same key. -/
def entries (observation : Observation) : Fields :=
  let named (key : String) (content : Option String) : Fields :=
    (content.map fun content => (key, Value.text content)).toList
  Fields.update
    (named "request_id" observation.requestId ++ named "user_id" observation.userId
      ++ named "instance_id" observation.instanceId)
    observation.extra

/-- Set the instance. -/
def withInstance (observation : Observation) (instanceId : Option String) : Observation :=
  { observation with instanceId }

/-- Set further entries, none of which may be named like the observation itself. -/
def withExtra (observation : Observation) (extra : Fields) : Except Failure Observation :=
  if Fields.contains extra "self" then .error (.duplicate "self")
  else .ok { observation with extra := Fields.update observation.extra extra }

end Observation
end InstanceDirectory
