import InstanceDirectory.Value.Literal

/-!
# Setup steps

The stage of setup that an instance has started or completed: unspecified, or one of
twenty-five numbered steps.  The store keeps a step as its number.
-/

namespace InstanceDirectory

/-- A setup stage by its number; zero is the unspecified stage. -/
structure SetupStep where
  /-- The number of the stage. -/
  number : Fin 26
deriving DecidableEq, Inhabited

namespace SetupStep

/-- The stage of an instance whose setup is not recorded. -/
def unspecified : SetupStep := ⟨0⟩

/-- The name of a stage. -/
def name (step : SetupStep) : String :=
  if step.number.val = 0 then "UNSPECIFIED" else "STEP" ++ toString step.number.val

/-- The stage that a value equals, if any. -/
def ofValue? (value : Value) : Option SetupStep :=
  match value.toInt? with
  | some (.ofNat n) => if bounded : n < 26 then some ⟨⟨n, bounded⟩⟩ else none
  | _ => none

/-- What is said of a value that no stage equals. -/
def rejection (value : Value) : String :=
  value.inMessage fun literal => literal ++ " is not a valid SetupStep"

end SetupStep
end InstanceDirectory
