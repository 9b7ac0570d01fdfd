import InstanceDirectory.Operation
import InstanceDirectory.Context

/-!
# Scripts

A script says how a rehearsed store answers.  Each kind of request has a cue: it may
cancel a context when the request is made, waits, and then fails or answers.  Rows have
a cue of their own, which waits before every row and may fail at one of them.
-/

namespace InstanceDirectory
namespace Rehearsal

/-- How one kind of request is answered. -/
structure Cue where
  /-- The context to cancel when the request is made. -/
  cancels : Option String := none
  /-- How long the answer takes. -/
  delay : Duration := 0
  /-- The failure to answer with. -/
  failure : Option Failure := none
  /-- The value to answer with. -/
  value : Value := .null
deriving Inhabited

/-- How rows are read. -/
structure RowsCue where
  /-- The rows in order. -/
  rows : List Value := []
  /-- How long each row takes, and the end of the rows. -/
  delay : Duration := 0
  /-- The position at which reading fails. -/
  failsAt : Option Int := none
  /-- The failure of reading. -/
  failure : Option Failure := none
deriving Inhabited

/-- The answer to asking for the row at a position. -/
def RowsCue.answer (cue : RowsCue) (position : Nat) : Except Failure (Option Value) :=
  match cue.failure with
  | some failure =>
      if cue.failsAt = some (position : Int) then .error failure else .ok cue.rows[position]?
  | none => .ok cue.rows[position]?

/-- How a rehearsed store answers. -/
structure Script where
  /-- The cues by name. -/
  cues : List (String × Cue) := []
  /-- The cue for rows. -/
  rows : RowsCue := {}
deriving Inhabited

end Rehearsal

/-- The name under which requests of a kind are cued. -/
def Request.cueName : Request -> String
  | perform => "run"
  | createPool _ => "create_pool"
  | closePool => "close_pool"
  | acquire => "acquire"
  | release _ => "release"
  | fetchRow _ _ => "fetchrow"
  | beginTransaction _ => "begin"
  | rollback _ => "rollback"
  | openRows _ => "fetch"
  | closeRows => "close_cursor"
  | nextRow => "rows"

/-- The cue for a request; a request without one is answered at once with nothing. -/
def Rehearsal.Script.cue (script : Script) (request : Request) : Cue :=
  match request with
  | .nextRow => { delay := script.rows.delay }
  | request =>
      ((script.cues.find? fun cue => cue.1 == request.cueName).map Prod.snd).getD {}

end InstanceDirectory
