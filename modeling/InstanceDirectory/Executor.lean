import InstanceDirectory.Pool

/-!
# Executing statements

Statements are executed in the caller's own store or over the connection pool.  Over the
pool, a single row borrows a connection for one request; rows are read inside a read-only
transaction whose connection stays borrowed until the cursor is closed.
-/

namespace InstanceDirectory

/-- Where statements are executed. -/
inductive Executor where
  /-- In a store of the caller's own. -/
  | direct
  /-- Over the connection pool, reading that many rows at a time. -/
  | pooled (prefetch : Int)
deriving DecidableEq, Inhabited

/-- The rows of a statement, ready to be read. -/
inductive Cursor where
  | direct
  | pooled (connection : Connection) (statement : Statement) (prefetch : Int)
deriving Inhabited

/-- Report a failure of a statement: one of the driver becomes one of the execution. -/
def Statement.report (statement : Statement) (message : String) (failure : Failure) : Failure :=
  if failure.isDriver then
    .execution (message ++ failure.message) statement.text failure
  else failure

namespace Cursor

/-- Read rows until they end or the judge has enough, and report a failed reading. -/
def read (cursor : Cursor) (judge : List Value -> Value -> Verdict) : Operation (List Value) :=
  let finish (report : Failure -> Failure) : RowsEnd -> Operation (List Value)
    | .exhausted rows => .succeed rows
    | .sufficient rows => .succeed rows
    | .refused failure => .fail failure
    | .failed failure => .fail (report failure)
  match cursor with
  | direct => .rows [] judge (finish id)
  | pooled connection statement prefetch =>
      .note (.contact (.cursor connection statement prefetch)) <|
        .rows [] judge (finish (statement.report "Reading rows failed: "))

/-- End the transaction of a pooled cursor and give its connection back in any case. -/
def finishTransaction (connection : Connection) (statement : Statement) : Operation Unit :=
  .call (.rollback connection) fun rolledBack =>
    (Pool.release connection).attempt fun
      | .error failure => .fail failure
      | .ok () => .done (rolledBack.mapError (statement.report "Closing rows failed: "))

/-- Close a cursor that was not closed before. -/
def close : Cursor -> Operation Unit
  | direct => .call .closeRows .done
  | pooled connection statement _ => finishTransaction connection statement

end Cursor

/-- A cursor in the hands of a caller, who may try to close it more than once. -/
structure CursorHandle where
  /-- The cursor. -/
  cursor : Cursor
  /-- Closing was tried before, whether or not it succeeded. -/
  isClosed : Bool := false
deriving Inhabited

/-- Close a cursor: only the first attempt does anything. -/
def CursorHandle.close (handle : CursorHandle) : CursorHandle × Operation Unit :=
  ({ handle with isClosed := true },
    if handle.isClosed then .succeed () else handle.cursor.close)

namespace Executor

/-- Execute a statement over a borrowed connection, which is given back in any case. -/
def fetchRowPooled (statement : Statement) : Operation Value :=
  Pool.acquire.andThen fun connection =>
    .call (.fetchRow (some connection) statement) fun fetched =>
      (Pool.release connection).attempt fun
        | .error failure => .fail failure
        | .ok () => .done (fetched.mapError (statement.report "Query execution failed: "))

/-- The first row of a statement; null when there is none. -/
def fetchRow (executor : Executor) (statement : Statement) : Operation Value :=
  match executor with
  | direct => .call (.fetchRow none statement) .done
  | pooled _ => fetchRowPooled statement

/--
Start a read-only transaction on a borrowed connection.  The connection is given back
when the driver fails or the start is interrupted.
-/
def startTransaction (connection : Connection) (statement : Statement) (prefetch : Int) :
    Operation Cursor :=
  .note (.contact (.transaction connection true)) <|
    .call (.beginTransaction connection) fun
      | .ok () => .succeed (.pooled connection statement prefetch)
      | .error failure =>
          if failure.isDriver || failure.isInterruption then
            (Pool.release connection).andThen fun () =>
              .fail (statement.report "Starting read transaction failed: " failure)
          else .fail failure

/-- Open a cursor over the rows of a statement. -/
def openRows (executor : Executor) (statement : Statement) : Operation Cursor :=
  match executor with
  | direct => .call (.openRows statement) fun opened => .done (opened.map fun () => .direct)
  | pooled prefetch =>
      Pool.acquire.andThen fun connection => startTransaction connection statement prefetch

end Executor
end InstanceDirectory
