import InstanceDirectory.Operation
import InstanceDirectory.Settings

/-!
# The connection pool

A pool is opened once and closed once, and lends connections while it is open.  Failures
of the driver surface as failures of the connection with the driver's failure as cause;
failures of any other kind pass through.
-/

namespace InstanceDirectory
namespace Pool

/-- What the driver is asked for under given settings. -/
def request (settings : DatabaseSettings) : Except Failure PoolRequest := do
  return {
    leastConnections := settings.leastConnections
    mostConnections := settings.mostConnections
    host := settings.host
    port := settings.port
    database := settings.database
    user := settings.username
    password := settings.password
    serverSettings := ← settings.serverSettings }

/-- Report a failure: one of the driver is recorded and becomes one of the connection. -/
def failWith (event : Failure -> PoolEvent) (message : String) (failure : Failure) :
    Operation α :=
  if failure.isDriver then
    .report (event failure) (.fail (.connection (message ++ failure.message) (some failure)))
  else .fail failure

/-- Ask the driver for a pool. -/
def create (settings : DatabaseSettings) (request : PoolRequest) : Operation Unit :=
  .call (.createPool request) fun
    | .ok () =>
        .setOpen true <|
          .report (.opened (.int settings.leastConnections) (.int settings.mostConnections))
            (.succeed ())
    | .error failure => failWith .openFailed "Failed to initialize connection pool: " failure

/-- Open the pool; an open one stays as it is. -/
def establish (settings : DatabaseSettings) : Operation Unit :=
  .ifOpen (.succeed ()) <|
    match request settings with
    | .ok request => create settings request
    | .error failure => .fail failure

/-- Close the pool; a closed one stays as it is. -/
def close : Operation Unit :=
  .ifOpen
    (.call .closePool fun
      | .ok () => .report .closed (.setOpen false (.succeed ()))
      | .error failure => .fail failure)
    (.succeed ())

/-- The failure of asking a closed pool for a connection. -/
def notOpen : Failure :=
  .connection "Connection pool not initialized" none

/-- Borrow a connection. -/
def acquire : Operation Connection :=
  .ifOpen
    (.call .acquire fun
      | .ok connection => .report .acquired (.succeed connection)
      | .error failure => failWith .acquireFailed "Cannot acquire connection: " failure)
    (.fail notOpen)

/-- Give a connection back; a closed pool takes none. -/
def release (connection : Connection) : Operation Unit :=
  .ifOpen
    (.call (.release connection) fun
      | .ok () => .report .returned (.succeed ())
      | .error failure => failWith .returnFailed "Cannot release connection: " failure)
    (.succeed ())

end Pool
end InstanceDirectory
