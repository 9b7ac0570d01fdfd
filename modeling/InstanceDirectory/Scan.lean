import InstanceDirectory.Executor
import InstanceDirectory.Row

/-!
# Scanning a page

All rows of a cursor are decoded or none is: the first row that does not decode ends the
reading.  The cursor is closed exactly once in every case, after the last row was read.
-/

namespace InstanceDirectory
namespace Scan

/-- Take a row that decodes together with its count. -/
def judge (_ : List Value) (row : Value) : Verdict :=
  match Row.addTo {} row with
  | .ok _ => .take
  | .error failure => .refuse failure

/-- The page that rows make up. -/
def page (rows : List Value) : Except Failure Page :=
  rows.foldlM Row.addTo {}

/-- Read all rows of a cursor into a page. -/
def collect (cursor : Cursor) : Operation Page :=
  (cursor.read judge).attempt fun
    | .ok rows => .done (page rows)
    | .error failure => .fail failure

/-- Report a failed reading: failures of the store and of decoding end the read. -/
def report (details : Fields) (failure : Failure) : Failure :=
  if failure.isStore || failure.isDecode then
    .internal "Errors.Internal" "QUERY-3j98f" details failure
  else failure

/-- The outcome of a scan from those of reading and of closing. -/
def conclude (details : Fields) (collected : Except Failure Page) :
    Except Failure Unit -> Except Failure Page
  | .ok () => collected.mapError (report details)
  | .error failure =>
      if failure.isStore then
        match collected with
        | .ok _ => .error (.internal "Errors.Query.CloseRows" "QUERY-8nlWW" details failure)
        | .error first => .error (report details first)
      else .error failure

/-- Read all rows of a cursor into a page and close the cursor. -/
def run (cursor : Cursor) (details : Fields) : Operation Page :=
  (collect cursor).attempt fun collected =>
    cursor.close.attempt fun closed => .done (conclude details collected closed)

end Scan
end InstanceDirectory
