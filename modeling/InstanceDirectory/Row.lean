import InstanceDirectory.Failure
import InstanceDirectory.Instance

/-!
# Rows

Reading the columns of a row into an instance.  Columns are read by position, in the
order in which every statement selects them.  The first column that does not fit decides
the failure.
-/

namespace InstanceDirectory
namespace Row

/-- The number of columns that hold an instance. -/
def instanceWidth : Nat := 11

/-- A row that has fewer columns than an instance. -/
def tooNarrow (width : Nat) : Failure :=
  .index ("row has " ++ toString width ++ " columns, expected " ++ toString instanceWidth)

/--
The columns of a row.  A text is a row of characters and bytes are a row of integers; a
record has a width but no columns in order.
-/
def columns : Value -> Except Failure (List Value)
  | .list items => .ok items
  | .text content => .ok (content.toList.map fun c => .text c.toString)
  | .bytes content => .ok (content.map fun byte => .ofNat byte.toNat)
  | .record fields =>
      if fields.length < instanceWidth then .error (tooNarrow fields.length)
      else .error { kind := .missingKey, message := "0" }
  | row => .error (.type ("object of type '" ++ row.fullKindName ++ "' has no len()"))

/-- A text column; null is the empty text. -/
def text : Value -> Except Failure String
  | .null => .ok ""
  | .text content => .ok content
  | value => .error (.type ("expected text column, got " ++ value.kindName))

/-- A timestamp column. -/
def timestamp : Value -> Except Failure Timestamp
  | .timestamp moment => .ok moment
  | value => .error (.type ("expected timestamp column, got " ++ value.kindName))

/-- The identity of an instance, which is never empty. -/
def identity (value : Value) : Except Failure String := do
  let id ← text value
  if id.isEmpty then .error (.value "instance id is empty") else .ok id

/-- A count, called `noun` in the message. -/
def tally (noun : String) (value : Value) : Except Failure Tally :=
  match Tally.ofValue? value with
  | some tally => .ok tally
  | none => .error (.value (value.inMessage fun literal => "invalid " ++ noun ++ " " ++ literal))

/-- A setup stage; anything blank is the unspecified stage. -/
def setupStep (value : Value) : Except Failure SetupStep :=
  if value.isBlank then .ok .unspecified
  else
    match SetupStep.ofValue? value with
    | some step => .ok step
    | none => .error (.value (SetupStep.rejection value))

/-- Read the leading columns of a row; columns after an instance's are left alone. -/
def decodeColumns (host : String) : List Value -> Except Failure Instance
  | id :: created :: changed :: sequence :: org :: project :: client :: app ::
      started :: done :: language :: _ => do
      let id ← identity id
      let sequence ← tally "sequence" sequence
      let creationDate ← timestamp created
      let changeDate ← timestamp changed
      let globalOrgId ← text org
      let iamProjectId ← text project
      let consoleId ← text client
      let consoleAppId ← text app
      let setupStarted ← setupStep started
      let setupDone ← setupStep done
      let language ← text language
      return {
        id, creationDate, changeDate, sequence, globalOrgId, iamProjectId, consoleId,
        consoleAppId, setupStarted, setupDone, host
        defaultLanguage := Language.parse (some language) }
  | columns => .error (tooNarrow columns.length)

/-- Read a row into an instance loaded for the given host. -/
def decode (row : Value) (host : String) : Except Failure Instance := do
  decodeColumns host (← columns row)

/-- Report a row that does not decode; a failure of another kind passes through. -/
def report (message errorId : String) (details : Fields) (failure : Failure) : Failure :=
  if failure.isDecode then .internal message errorId details failure else failure

/-- The answer of a single-row lookup: a null row means that nothing matched. -/
def single (row : Value) (host : String) (details : Fields) : Except Failure Instance :=
  match row with
  | .null => .error (.notFound details)
  | row => (decode row host).mapError (report "Errors.Internal" "QUERY-d9nw" details)

/--
The answer of a lookup whose host may stand among its details instead.  Neither the host nor
the row may be given twice.
-/
def singleAmong (row : Value) (host : Option String) (details : Fields) :
    Except Failure Instance :=
  if host.isSome && Fields.contains details "host" then .error (.duplicate "host")
  else if Fields.contains details "row" then .error (.duplicate "row")
  else
    let detailed :=
      match Fields.get? details "host" with
      | some (.text content) => content
      | _ => ""
    single row (host.getD detailed) (Fields.erase details "host")

/-- The count that follows an instance on a row of a page. -/
def total (row : Value) : Except Failure Tally := do
  match (← columns row)[instanceWidth]? with
  | some value => tally "count" value
  | none => .error (.index "list index out of range")

/-- Add a row to a page; the count is the one of the last row. -/
def addTo (page : Page) (row : Value) : Except Failure Page := do
  let inst ← decode row ""
  let total ← total row
  return { instances := page.instances ++ [inst], total }

end Row
end InstanceDirectory
