import InstanceDirectory.Value.Literal

/-!
# Failures

A failure has a kind, a message and perhaps the failure that caused it.  The kinds are
those on which some decision of the library depends: failures of the driver, of the
store, of the caller's context, of decoding a row, and the query failures that callers
see.  All other failures pass through unchanged under their own name.
-/

namespace InstanceDirectory

/-- Failures that a database driver raises for server, protocol and network trouble. -/
inductive DriverFault where
  | server
  | interface
  | system (name : String)
deriving DecidableEq

/-- Failures of the store as the library reports them. -/
inductive StoreFault where
  | unspecified
  | connection
  | execution (statement : Option String)
deriving DecidableEq

/-- Failures that a caller of a read sees. -/
inductive QueryFault where
  | unspecified
  | invalidArgument
  | notFound
  | internal
deriving DecidableEq

/-- Ways in which a row does not fit the projection. -/
inductive DecodeFault where
  | index
  | type
  | value (name : String)
deriving DecidableEq

/-- Ways in which a table description or a select cannot be turned into a statement. -/
inductive RenderFault where
  | compilation
  | request
deriving DecidableEq

/-- A configured field that was not accepted; without a field the whole is at fault. -/
structure FieldFault where
  /-- The field, absent for a rule over several fields. -/
  field : Option String
  /-- The identifier of the rule. -/
  rule : String
  /-- The explanation for readers. -/
  explanation : String
deriving DecidableEq

/-- What kind of failure it is. -/
inductive FailureKind where
  | driver (fault : DriverFault)
  | store (fault : StoreFault)
  | query (fault : QueryFault) (errorId : String) (details : Fields)
  | contextCancelled
  | deadlineExceeded
  | decode (fault : DecodeFault)
  | render (fault : RenderFault)
  | missingKey
  | interruption
  | duplicateField
  | unimplemented
  | invalidSettings (faults : List FieldFault)
  | other (name : String)

/-- A failure with its explicit cause. -/
structure Failure where
  /-- The kind, which decides how the failure is handled. -/
  kind : FailureKind
  /-- The message as given by whoever raised it. -/
  message : String
  /-- The failure that this one reports in other terms. -/
  cause : Option Failure := none

namespace FailureKind

/-- The name under which a kind is reported. -/
def name : FailureKind -> String
  | driver .server => "PostgresError"
  | driver .interface => "InterfaceError"
  | driver (.system name) => name
  | store .unspecified => "DatabaseError"
  | store .connection => "DatabaseConnectionError"
  | store (.execution _) => "QueryExecutionError"
  | query .unspecified _ _ => "QueryError"
  | query .invalidArgument _ _ => "InvalidArgumentError"
  | query .notFound _ _ => "NotFoundError"
  | query .internal _ _ => "InternalError"
  | contextCancelled => "ContextCancelledError"
  | deadlineExceeded => "ContextDeadlineExceededError"
  | decode .index => "IndexError"
  | decode .type => "TypeError"
  | decode (.value name) => name
  | render .compilation => "CompileError"
  | render .request => "InvalidRequestError"
  | missingKey => "KeyError"
  | interruption => "CancelledError"
  | duplicateField => "DuplicateField"
  | unimplemented => "NotImplementedError"
  | invalidSettings _ => "ValidationError"
  | other name => name

/-- Operating-system failures, by the names under which they are reported. -/
def systemNames : List String := [
    "OSError", "ConnectionError", "ConnectionResetError", "ConnectionRefusedError",
    "ConnectionAbortedError", "BrokenPipeError", "TimeoutError", "InterruptedError",
    "BlockingIOError", "ChildProcessError", "FileExistsError", "FileNotFoundError",
    "IsADirectoryError", "NotADirectoryError", "PermissionError", "ProcessLookupError"
  ]

/-- Refinements of a value that does not fit, by the names under which they are reported. -/
def valueNames : List String := ["ValueError", "UnicodeError"]

/-- The kind that a name reports; query kinds get the given identifier and details. -/
def ofName (name errorId : String) (details : Fields) : FailureKind :=
  match name with
  | "PostgresError" => driver .server
  | "InterfaceError" => driver .interface
  | "EnvironmentError" => driver (.system "OSError")
  | "IOError" => driver (.system "OSError")
  | "DatabaseError" => store .unspecified
  | "DatabaseConnectionError" => store .connection
  | "QueryExecutionError" => store (.execution none)
  | "QueryError" => query .unspecified errorId details
  | "InvalidArgumentError" => query .invalidArgument errorId details
  | "NotFoundError" => query .notFound errorId details
  | "InternalError" => query .internal errorId details
  | "ContextCancelledError" => contextCancelled
  | "ContextDeadlineExceededError" => deadlineExceeded
  | "IndexError" => decode .index
  | "TypeError" => decode .type
  | "CompileError" => render .compilation
  | "InvalidRequestError" => render .request
  | "KeyError" => missingKey
  | "CancelledError" => interruption
  | "NotImplementedError" => unimplemented
  | _ =>
      if systemNames.contains name then driver (.system name)
      else if valueNames.contains name then decode (.value name)
      else other name

end FailureKind

namespace Failure

/-- The name under which a failure is reported. -/
def name (failure : Failure) : String :=
  failure.kind.name

/-- The causes of a failure, the nearest first. -/
def causes (failure : Failure) : List Failure :=
  match failure with
  | ⟨_, _, none⟩ => []
  | ⟨_, _, some cause⟩ => cause :: cause.causes

/-- A failure of the driver. -/
def isDriver (failure : Failure) : Bool :=
  match failure.kind with
  | .driver _ => true
  | _ => false

/-- A failure of the store. -/
def isStore (failure : Failure) : Bool :=
  match failure.kind with
  | .store _ => true
  | _ => false

/-- A failure of the store or the firing of the caller's context. -/
def isExecution (failure : Failure) : Bool :=
  match failure.kind with
  | .store _ => true
  | .contextCancelled => true
  | .deadlineExceeded => true
  | _ => false

/-- A row that does not fit the projection. -/
def isDecode (failure : Failure) : Bool :=
  match failure.kind with
  | .decode _ => true
  | _ => false

/-- The interruption of the task that awaits an operation. -/
def isInterruption (failure : Failure) : Bool :=
  match failure.kind with
  | .interruption => true
  | _ => false

/-- A failure that rejects a select as malformed. -/
def isRender (failure : Failure) : Bool :=
  match failure.kind with
  | .render _ => true
  | .missingKey => true
  | _ => false

/-- The interruption that an operation meets when it is abandoned. -/
def interrupted : Failure where
  kind := .interruption
  message := ""

/-- A row has too few columns or a page lacks its count. -/
def index (message : String) : Failure where
  kind := .decode .index
  message := message

/-- A value of a kind that its place does not admit. -/
def type (message : String) : Failure where
  kind := .decode .type
  message := message

/-- A value of the right kind that its place does not admit. -/
def value (message : String) : Failure where
  kind := .decode (.value "ValueError")
  message := message

/-- An infinity has no integer next to it. -/
def infinite : Failure where
  kind := .other "OverflowError"
  message := "cannot convert float infinity to integer"

/-- The failure of giving a field twice. -/
def duplicate (key : String) : Failure where
  kind := .duplicateField
  message := key

/-- Decide whether a failure is that of giving a field twice. -/
def isDuplicate (failure : Failure) : Bool :=
  match failure.kind with
  | .duplicateField => true
  | _ => false

/-- A connection could not be had, returned or opened. -/
def connection (message : String) (cause : Option Failure) : Failure where
  kind := .store .connection
  message := message
  cause := cause

/-- A statement or the reading of its rows failed. -/
def execution (message statement : String) (cause : Failure) : Failure where
  kind := .store (.execution (some statement))
  message := message
  cause := some cause

/--
The key under which details repeat what a query failure has anyway: its identifier, or else
the first of its message and itself.
-/
def repeated? (details : Fields) : Option String :=
  if Fields.contains details "error_id" then some "error_id"
  else
    (details.find? fun field => field.1 == "message" || field.1 == "self").map Prod.fst

/-- A query failure; its details must not repeat what it has anyway. -/
def query
    (fault : QueryFault) (message errorId : String) (details : Fields)
    (cause : Option Failure) : Failure :=
  match repeated? details with
  | some key => duplicate key
  | none => { kind := .query fault errorId details, message, cause }

/-- A read that could not be answered. -/
def internal (message errorId : String) (details : Fields) (cause : Failure) : Failure :=
  query .internal message errorId details (some cause)

/-- A query that cannot be built. -/
def invalidArgument
    (message errorId : String) (details : Fields) (cause : Option Failure) : Failure :=
  query .invalidArgument message errorId details cause

/-- A lookup that matched no row. -/
def notFound (details : Fields) : Failure :=
  query .notFound "Errors.Instance.NotFound" "QUERY-n0wng" details none

/-- The caller's context was cancelled. -/
def contextCancelled : Failure where
  kind := .contextCancelled
  message := "context canceled"

/-- The deadline of the caller's context has passed. -/
def deadlineExceeded : Failure where
  kind := .deadlineExceeded
  message := "context deadline exceeded"

/--
The failure that a name and a message report.  The message of a missing key is the key's
literal; a query failure, or a cause, that repeats a field is the failure of doing so.
-/
def named
    (name message errorId : String) (details : Fields) (cause : Option Failure) : Failure :=
  match cause.filter isDuplicate, FailureKind.ofName name errorId details with
  | some duplicate, _ => duplicate
  | none, .query fault errorId details => query fault message errorId details cause
  | none, kind =>
      { kind, cause, message := if name = "KeyError" then Text.quoted message else message }

/-- The identifier and details of a query failure. -/
def query? (failure : Failure) : Option (QueryFault × String × Fields) :=
  match failure.kind with
  | .query fault errorId details => some (fault, errorId, details)
  | _ => none

/-- The text that shows all parts of a failure whose details can be written out. -/
def literal (failure : Failure) : String :=
  match failure.kind with
  | .query _ errorId details =>
      failure.name ++ "(message=" ++ Text.quoted failure.message
        ++ ", error_id=" ++ Text.quoted errorId
        ++ ", details=" ++ (Value.record details).literal ++ ")"
  | .missingKey => failure.name ++ "(" ++ failure.message ++ ")"
  | _ => failure.name ++ "(" ++ Text.quoted failure.message ++ ")"

/-- The families of failures that a caller may tell apart, by name. -/
def families (failure : Failure) : List String :=
  match failure.kind with
  | .query .unspecified _ _ => ["QueryError"]
  | .query .invalidArgument _ _ => ["QueryError", "InvalidArgumentError"]
  | .query .notFound _ _ => ["QueryError", "NotFoundError"]
  | .query .internal _ _ => ["QueryError", "InternalError"]
  | .store .unspecified => ["DatabaseError"]
  | .store .connection => ["DatabaseError", "DatabaseConnectionError"]
  | .store (.execution _) => ["DatabaseError", "QueryExecutionError"]
  | _ => []

end Failure
end InstanceDirectory
