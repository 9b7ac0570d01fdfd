import InstanceDirectory.Language
import InstanceDirectory.SetupStep

/-!
# Instances

A snapshot of one instance as the read store holds it, a page of them with the total
number of matches, and the narrow view that request handling works with.
-/

namespace InstanceDirectory

/-- A count from the store; a truth value is accepted as a count and stays one. -/
inductive Tally where
  | count (number : Nat)
  | truth (holds : Bool)
deriving DecidableEq, Inhabited

namespace Tally

/-- The number that a tally stands for. -/
def toNat : Tally -> Nat
  | count number => number
  | truth holds => if holds then 1 else 0

/-- A tally as the value it was read from. -/
def toValue : Tally -> Value
  | count number => .ofNat number
  | truth holds => .bool holds

/-- Integers that are not negative, and truth values. -/
def ofValue? : Value -> Option Tally
  | .int (.ofNat number) => some (count number)
  | .bool holds => some (truth holds)
  | _ => none

@[simp] theorem ofValue?_toValue (tally : Tally) : ofValue? tally.toValue = some tally := by
  cases tally <;> rfl

end Tally

/-- A snapshot of one instance. -/
structure Instance where
  /-- The identity of the instance. -/
  id : String
  /-- When the instance was created. -/
  creationDate : Timestamp
  /-- When the instance last changed. -/
  changeDate : Timestamp
  /-- The number of the last event that the snapshot reflects. -/
  sequence : Tally
  /-- The organisation that owns global settings. -/
  globalOrgId : String
  /-- The project of the management interface. -/
  iamProjectId : String
  /-- The client of the console. -/
  consoleId : String
  /-- The application of the console. -/
  consoleAppId : String
  /-- The language of users without a preference. -/
  defaultLanguage : Language
  /-- The last setup stage that was started. -/
  setupStarted : SetupStep
  /-- The last setup stage that was completed. -/
  setupDone : SetupStep
  /-- The host of the request that loaded the snapshot, as the caller gave it. -/
  host : String
deriving DecidableEq, Inhabited

/-- What authorisation and branding see of an instance. -/
structure RequestedInstance where
  /-- The identity of the instance. -/
  instanceId : String
  /-- The project of the management interface. -/
  projectId : String
  /-- The client of the console. -/
  consoleClientId : String
  /-- The application of the console. -/
  consoleApplicationId : String
  /-- The host of the request. -/
  requestedDomain : String
deriving DecidableEq

/-- The narrow view of an instance. -/
def Instance.requested (inst : Instance) : RequestedInstance where
  instanceId := inst.id
  projectId := inst.iamProjectId
  consoleClientId := inst.consoleId
  consoleApplicationId := inst.consoleAppId
  requestedDomain := inst.host

/-- Some of the instances that match a search, with the number of all of them. -/
structure Page where
  /-- The instances of this page, in the order of the search. -/
  instances : List Instance := []
  /-- How many instances match. -/
  total : Tally := .count 0
deriving DecidableEq, Inhabited

/-- The instance that request handling resolved, and the host it was asked for. -/
structure CurrentInstance where
  /-- The identity, sent to the store as it was attached to the request. -/
  instanceId : Value
  /-- The host of the request. -/
  requestedDomain : String

end InstanceDirectory
