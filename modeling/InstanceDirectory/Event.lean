import InstanceDirectory.Failure
import InstanceDirectory.Observation

/-!
# Events

Reads, calls and the pool report what happened as events.  An event has a level, a name
and fields of its own; the entries of an observation are attached when it is recorded.
An entry must not repeat a field, nor what the log keeps for itself: such an event is not
recorded.
-/

namespace InstanceDirectory

/-- How important an event is. -/
inductive Level where
  | debug
  | info
  | warning
  | error
deriving DecidableEq, Inhabited

namespace Level

/-- The name of a level. -/
def name : Level -> String
  | debug => "debug"
  | info => "info"
  | warning => "warning"
  | error => "error"

/-- The place of a level in the order of importance. -/
def rank : Level -> Nat
  | debug => 0
  | info => 1
  | warning => 2
  | error => 3

end Level

/-- Events of reading instances. -/
inductive ReadEvent where
  | retrieved (lookup instanceId : Value)
  | missed (lookup key : Value)
  | failed (lookup key : Value) (failure : Failure)
  | listed (returned total : Value)
  | rejected (lookup : Value) (failure : Failure)

/-- Events of service calls. -/
inductive ServiceEvent where
  | resolved (lookup instanceId : Value)
  | resolutionFailed (lookup errorId message : Value)
  | searched (returned total : Value)
  | languageFallback (instanceId reason : Value)

/-- Events of the connection pool. -/
inductive PoolEvent where
  | opened (least most : Value)
  | openFailed (failure : Failure)
  | acquired
  | acquireFailed (failure : Failure)
  | returned
  | returnFailed (failure : Failure)
  | closed

/-- Everything that is reported. -/
inductive Event where
  | read (event : ReadEvent)
  | service (event : ServiceEvent)
  | pool (event : PoolEvent)

/-- An event with its fields. -/
structure LogEntry where
  /-- The importance of the event. -/
  level : Level
  /-- The name of the event. -/
  event : String
  /-- The fields of the event, its own ones first. -/
  fields : Fields
deriving Inhabited

/-- What went wrong in the first place, as far as one step of causes tells. -/
def Failure.origin (failure : Failure) : Failure :=
  failure.cause.getD failure

/-- An event of a read without an observation. -/
def ReadEvent.entry : ReadEvent -> LogEntry
  | retrieved lookup instanceId =>
      ⟨.debug, "instance_retrieved", [("lookup", lookup), ("retrieved_instance_id", instanceId)]⟩
  | missed lookup key => ⟨.info, "instance_not_found", [("lookup", lookup), ("key", key)]⟩
  | failed lookup key failure =>
      ⟨.error, "instance_lookup_failed",
        [("lookup", lookup), ("key", key), ("error", .text failure.origin.message),
          ("error_type", .text failure.origin.name)]⟩
  | listed returned total => ⟨.debug, "instances_listed", [("returned", returned), ("total", total)]⟩
  | rejected lookup failure =>
      ⟨.warning, "instance_statement_rejected",
        [("lookup", lookup), ("error", .text failure.origin.message)]⟩

/-- An event of a service call without an observation. -/
def ServiceEvent.entry : ServiceEvent -> LogEntry
  | resolved lookup instanceId =>
      ⟨.info, "instance_resolved", [("lookup", lookup), ("resolved_instance_id", instanceId)]⟩
  | resolutionFailed lookup errorId message =>
      ⟨.warning, "instance_resolution_failed",
        [("lookup", lookup), ("error_id", errorId), ("message", message)]⟩
  | searched returned total =>
      ⟨.info, "instances_searched", [("returned", returned), ("total", total)]⟩
  | languageFallback instanceId reason =>
      ⟨.warning, "default_language_fallback",
        [("fallback_instance_id", instanceId), ("reason", reason)]⟩

/-- An event of the pool without an observation. -/
def PoolEvent.entry : PoolEvent -> LogEntry
  | opened least most =>
      ⟨.info, "connection_pool_initialized",
        [("min_connections", least), ("max_connections", most)]⟩
  | openFailed failure =>
      ⟨.error, "connection_pool_initialization_failed", [("error", .text failure.message)]⟩
  | acquired => ⟨.debug, "connection_acquired_from_pool", []⟩
  | acquireFailed failure =>
      ⟨.warning, "connection_acquire_failed", [("error", .text failure.message)]⟩
  | returned => ⟨.debug, "connection_returned_to_pool", []⟩
  | returnFailed failure =>
      ⟨.error, "connection_return_failed", [("error", .text failure.message)]⟩
  | closed => ⟨.info, "connection_pool_closed", []⟩

/-- An event without an observation. -/
def Event.entry : Event -> LogEntry
  | read event => event.entry
  | service event => event.entry
  | pool event => event.entry

namespace LogEntry

/-- The first key that both the fields and the entries hold, in the order of the entries. -/
def clash? (fields entries : Fields) : Option String :=
  (entries.find? fun entry => Fields.contains fields entry.1).map Prod.fst

/-- Keys that the log keeps for itself on every event. -/
def keptKeys : List String := ["event", "self"]

/-- The key that the log keeps for itself on events that are written. -/
def writtenKey : String := "method_name"

/-- The first key of the entries that a log keeps for itself. -/
def kept? (entries : Fields) (written : Bool) : Option String :=
  match entries.find? fun entry => keptKeys.contains entry.1 with
  | some entry => some entry.1
  | none => if written && Fields.contains entries writtenKey then some writtenKey else none

/--
Attach the entries of an observation.  A key that repeats a field, or that the log keeps for
itself, is refused.
-/
def attach (entry : LogEntry) (entries : Fields) (written : Bool) : Except Failure LogEntry :=
  match clash? entry.fields entries <|> kept? entries written with
  | some key => .error (.duplicate key)
  | none => .ok { entry with fields := entry.fields ++ entries }

end LogEntry

/-- Decide whether events of a level are written when a least level is set. -/
def Level.isWritten (level least : Level) : Bool :=
  least.rank ≤ level.rank

/-- What a log is told beside the events themselves. -/
structure Reporter where
  /-- What is attached to every event, if anything is. -/
  observation : Option Observation := none
  /-- The least level of events that are written. -/
  least : Level := .debug

/-- Record an event. -/
def Event.record (event : Event) (reporter : Reporter) : Except Failure LogEntry :=
  event.entry.attach ((reporter.observation.map Observation.entries).getD [])
    (event.entry.level.isWritten reporter.least)

end InstanceDirectory
