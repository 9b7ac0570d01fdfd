import InstanceDirectory.Event
import InstanceDirectory.Statement

/-!
# Operations

An operation is a program of requests to the driver.  Each request is answered once,
with a reply or a failure, and the answer decides how the operation goes on; being
interrupted is one of the failures.  Reading rows is a loop of requests: the rows read so
far are kept until the rows end, a row is refused, or enough of them are there.  Between
requests an operation may write to the journal and consult whether the pool is open.
-/

namespace InstanceDirectory

/-- What the driver is asked for a pool of connections. -/
structure PoolRequest where
  /-- The least number of connections. -/
  leastConnections : Int
  /-- The greatest number of connections. -/
  mostConnections : Int
  /-- The host of the database. -/
  host : String
  /-- The port of the database. -/
  port : Int
  /-- The name of the database. -/
  database : String
  /-- The user of the database. -/
  user : String
  /-- The password of the user. -/
  password : String
  /-- The settings of every session on the server. -/
  serverSettings : List (String × String)
deriving DecidableEq, Inhabited

/-- A connection of the driver's pool by its number. -/
abbrev Connection : Type := Nat

/-- A request that may have to wait for its answer. -/
inductive Request where
  /-- Work of the caller's own. -/
  | perform
  | createPool (request : PoolRequest)
  | closePool
  | acquire
  | release (connection : Connection)
  /-- The first row of a statement, over a connection or from the caller's own store. -/
  | fetchRow (connection : Option Connection) (statement : Statement)
  | beginTransaction (connection : Connection)
  | rollback (connection : Connection)
  /-- Open the rows of a statement in the caller's own store. -/
  | openRows (statement : Statement)
  /-- Close the rows of the caller's own store. -/
  | closeRows
  /-- The next row, if there is one. -/
  | nextRow

/-- What a successful request answers. -/
abbrev Request.Reply : Request -> Type
  | perform => Value
  | acquire => Connection
  | fetchRow _ _ => Value
  | nextRow => Option Value
  | _ => Unit

/-- A trace of contact with the driver. -/
inductive Contact where
  | requested (request : Request)
  /-- A transaction is prepared on a connection. -/
  | transaction (connection : Connection) (readOnly : Bool)
  /-- The rows of a statement are about to be read over a connection. -/
  | cursor (connection : Connection) (statement : Statement) (prefetch : Int)
  /-- A row has arrived. -/
  | row (index : Nat)
  /-- A request was interrupted while it waited. -/
  | interrupted (request : Request)

/-- An entry of the journal: contact with the driver, or a recorded event. -/
inductive Notice where
  | contact (contact : Contact)
  | logged (entry : LogEntry)

/-- What to do with the row that was just read. -/
inductive Verdict where
  | take
  | takeLast
  | refuse (failure : Failure)

/-- How the reading of rows ended. -/
inductive RowsEnd where
  /-- All rows were read. -/
  | exhausted (rows : List Value)
  /-- Enough rows were read. -/
  | sufficient (rows : List Value)
  /-- A row was refused. -/
  | refused (failure : Failure)
  /-- The next row could not be read. -/
  | failed (failure : Failure)

/-- A program of requests that ends in an answer or a failure. -/
inductive Operation (α : Type) where
  | done (outcome : Except Failure α)
  | note (notice : Notice) (next : Operation α)
  | ifOpen (whenOpen whenClosed : Operation α)
  | setOpen (isOpen : Bool) (next : Operation α)
  | call (request : Request) (next : Except Failure request.Reply -> Operation α)
  | rows (kept : List Value) (judge : List Value -> Value -> Verdict)
      (next : RowsEnd -> Operation α)

instance : Inhabited (Operation α) where
  default := .done (.error .interrupted)

namespace Operation

/-- Succeed without a request. -/
def succeed (answer : α) : Operation α :=
  done (.ok answer)

/-- Fail without a request. -/
def fail (failure : Failure) : Operation α :=
  done (.error failure)

/-- Go on after an operation, whatever its outcome. -/
def attempt : Operation α -> (Except Failure α -> Operation β) -> Operation β
  | done outcome, next => next outcome
  | note notice rest, next => note notice (rest.attempt next)
  | ifOpen whenOpen whenClosed, next =>
      ifOpen (whenOpen.attempt next) (whenClosed.attempt next)
  | setOpen isOpen rest, next => setOpen isOpen (rest.attempt next)
  | call request rest, next => call request fun answer => (rest answer).attempt next
  | rows kept judge rest, next => rows kept judge fun ending => (rest ending).attempt next

@[simp] theorem attempt_done
    (outcome : Except Failure α)
    (next : Except Failure α -> Operation β) :
    (done outcome).attempt next = next outcome := rfl

@[simp] theorem attempt_note
    (notice : Notice)
    (rest : Operation α)
    (next : Except Failure α -> Operation β) :
    (note notice rest).attempt next = note notice (rest.attempt next) := rfl

@[simp] theorem attempt_ifOpen
    (whenOpen whenClosed : Operation α)
    (next : Except Failure α -> Operation β) :
    (ifOpen whenOpen whenClosed).attempt next =
      ifOpen (whenOpen.attempt next) (whenClosed.attempt next) := rfl

@[simp] theorem attempt_setOpen
    (isOpen : Bool)
    (rest : Operation α)
    (next : Except Failure α -> Operation β) :
    (setOpen isOpen rest).attempt next = setOpen isOpen (rest.attempt next) := rfl

@[simp] theorem attempt_call
    (request : Request)
    (rest : Except Failure request.Reply -> Operation α)
    (next : Except Failure α -> Operation β) :
    (call request rest).attempt next =
      call request fun answer => (rest answer).attempt next := rfl

@[simp] theorem attempt_rows
    (kept : List Value)
    (judge : List Value -> Value -> Verdict)
    (rest : RowsEnd -> Operation α)
    (next : Except Failure α -> Operation β) :
    (rows kept judge rest).attempt next =
      rows kept judge fun ending => (rest ending).attempt next := rfl

/-- Go on after an operation that succeeds. -/
def andThen (operation : Operation α) (next : α -> Operation β) : Operation β :=
  operation.attempt fun
    | .ok answer => next answer
    | .error failure => fail failure

/-- Record an event of the pool, which never carries an observation. -/
def report (event : PoolEvent) (next : Operation α) : Operation α :=
  note (.logged event.entry) next

/-- The request that an operation is waiting for. -/
def request? : Operation α -> Option Request
  | call request _ => some request
  | rows _ _ _ => some .nextRow
  | _ => none

/-- The outcome of an operation that has ended. -/
def outcome? : Operation α -> Option (Except Failure α)
  | done outcome => some outcome
  | _ => none

end Operation

/-- What operations share: whether the pool is open, and the journal. -/
structure Site where
  /-- The driver has a pool for us. -/
  isOpen : Bool := false
  /-- Everything that was noted, in order. -/
  journal : List Notice := []
deriving Inhabited

/-- Write to the journal. -/
def Site.note (site : Site) (notice : Notice) : Site :=
  { site with journal := site.journal ++ [notice] }

/-- An answer to whatever is requested. -/
abbrev Answerer : Type := (request : Request) -> Except Failure request.Reply

/-- The answer to an operation that is interrupted. -/
def Answerer.interruption : Answerer :=
  fun _ => .error .interrupted

namespace Operation

/-- Requests that leave a trace when they are made. -/
def isTraced : Request -> Bool
  | .perform => false
  | .nextRow => false
  | _ => true

/--
Carry an operation on to its next request or its end.  A request is traced when it is
made.
-/
def settle : Operation α -> Site -> Operation α × Site
  | done outcome, site => (done outcome, site)
  | note notice next, site => next.settle (site.note notice)
  | ifOpen whenOpen whenClosed, site =>
      if site.isOpen then whenOpen.settle site else whenClosed.settle site
  | setOpen isOpen next, site => next.settle { site with isOpen }
  | call request next, site =>
      (call request next,
        if isTraced request then site.note (.contact (.requested request)) else site)
  | rows kept judge next, site => (rows kept judge next, site)

/-- Answer the request that a settled operation is waiting for. -/
def answer (operation : Operation α) (answerer : Answerer) (site : Site) : Operation α × Site :=
  match operation with
  | call request next => (next (answerer request)).settle site
  | rows kept judge next =>
      match answerer .nextRow with
      | .error failure => (next (.failed failure)).settle site
      | .ok none => (next (.exhausted kept)).settle site
      | .ok (some row) =>
          let site := site.note (.contact (.row kept.length))
          match judge kept row with
          | .take => (rows (kept ++ [row]) judge next, site)
          | .takeLast => (next (.sufficient (kept ++ [row]))).settle site
          | .refuse failure => (next (.refused failure)).settle site
  | operation => operation.settle site

end Operation
end InstanceDirectory
