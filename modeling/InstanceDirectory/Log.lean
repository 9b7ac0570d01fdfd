import InstanceDirectory.Event

/-!
# Log lines

Recorded events are written as structured lines or as aligned text for a terminal.
Entries bound to the surrounding task are merged under the fields of an event, and the
line's own level and time replace fields of those names.
-/

namespace InstanceDirectory

/-- How log lines are written. -/
inductive Renderer where
  | structured
  | terminal
deriving DecidableEq, Inhabited

namespace Renderer

/-- The name of a renderer. -/
def name : Renderer -> String
  | structured => "json"
  | terminal => "console"

/-- The number of steps that a record passes on its way into a line. -/
def stages : Renderer -> Nat
  | structured => 6
  | terminal => 5

/-- Decide whether a setting asks for colours. -/
def asksForColours (setting : Option String) : Bool :=
  ["1", "true", "yes"].contains (String.ofList ((setting.getD "").toList.map Char.toLower))

/-- Colours are for terminals and for those who ask for them. -/
def choose (colourSetting : Option String) (isTerminal : Bool) : Renderer :=
  if asksForColours colourSetting || isTerminal then terminal else structured

end Renderer

namespace Log

/-- The least level that is written. -/
def threshold (debug : Bool) : Level :=
  if debug then .debug else .info

/-- Fields that a line replaces by its own, and those that only ask for more to be written. -/
def reserved : List String := ["level", "timestamp", "stack_info", "exc_info"]

/-- The fields of a line: bound entries first, replaced by the event's own ones. -/
def merged (bound : Fields) (entry : LogEntry) : Fields :=
  (Fields.update (Fields.erase bound "event") entry.fields).filter fun field =>
    !reserved.contains field.1

mutual

/-- A value as a structured line can hold it: other kinds become their literals. -/
def plain : Value -> Value
  | .bytes content => .text (Value.literal (.bytes content))
  | .timestamp moment => .text (Value.literal (.timestamp moment))
  | .date day => .text (Value.literal (.date day))
  | .list items => .list (plainItems items)
  | .record fields => .record (plainFields fields)
  | value => value

/-- The items of a list as a structured line can hold them. -/
def plainItems : List Value -> List Value
  | [] => []
  | item :: items => plain item :: plainItems items

/-- The fields of a record as a structured line can hold them. -/
def plainFields : List (String × Value) -> List (String × Value)
  | [] => []
  | (name, value) :: fields => (name, plain value) :: plainFields fields

end

/-- The record that a structured line holds. -/
def structuredEntry (bound : Fields) (entry : LogEntry) : LogEntry :=
  { entry with fields := plainFields (merged bound entry) }

/-- A character that makes a bare text ambiguous: a blank, a quote or the sign after a key. -/
def isAmbiguous (c : Char) : Bool :=
  c == ' ' || c == '\t' || c == '\r' || c == '\n' || c == '=' || c == '"' || c == '\''

/-- A value on a terminal line: an unambiguous text is bare, all else is a literal. -/
def terminalValue : Value -> String
  | .text content => if content.toList.any isAmbiguous then Text.quoted content else content
  | value => value.literal

/-- Pad a text with spaces. -/
def padded (width : Nat) (text : String) : String :=
  text ++ String.ofList (List.replicate (width - text.length) ' ')

/-- A text without the spaces at its end. -/
def trimEnd (text : String) : String :=
  String.ofList (text.toList.reverse.dropWhile (· == ' ')).reverse

/-- Fields whose texts follow the first line on a terminal. -/
def appended : List String := ["stack", "exception"]

/-- Fields that have a place of their own on a terminal. -/
def placed : List String := ["logger", "logger_name"] ++ appended

/-- The text of a value that stands between brackets. -/
def bracketed : Value -> String
  | .text content => content
  | .timestamp moment => moment.text.map fun c => if c == 'T' then ' ' else c
  | .date day => day.text
  | value => value.literal

/-- The first line on a terminal: the names of loggers, and then the fields sorted by key. -/
def headline (entry : LogEntry) (fields : Fields) : String :=
  let names := ["logger", "logger_name"].filterMap (Fields.get? fields)
  let others := (fields.filter fun field => !placed.contains field.1).mergeSort
    fun first second => decide (first.1 ≤ second.1)
  "[" ++ padded 9 entry.level.name ++ "] " ++ padded 30 entry.event ++ " "
    ++ String.intercalate " " (names.map (fun name => "[" ++ bracketed name ++ "]")
      ++ others.map fun field => field.1 ++ "=" ++ terminalValue field.2)

/-- A field whose text follows the first line; null is no text. -/
def appendix (fields : Fields) (name : String) : Except Failure (Option String) :=
  match Fields.get? fields name with
  | none => .ok none
  | some .null => .ok none
  | some (.text content) => .ok (some content)
  | some value =>
      .error (.type ("can only concatenate str (not \"" ++ value.fullKindName ++ "\") to str"))

/-- The rule between a stack and what comes after it. -/
def rule : String := "\n\n" ++ String.ofList (List.replicate 79 '=') ++ "\n"

/--
The lines on a terminal, without time and colours.  A stack and an exception follow the
first line, with a rule between them; asking for an exception is enough for the rule.
There are no lines when a value on the first one has too many digits to be written out.
-/
def terminalLines (bound : Fields) (entry : LogEntry) : Except Failure (List String) := do
  let all := Fields.update bound entry.fields
  let fields := merged bound entry
  let written := fields.filter fun field => !appended.contains field.1
  unless written.all fun field => field.2.isWritable do
    throw (.value Value.tooManyDigits)
  let stack ← appendix fields "stack"
  let exception ← appendix fields "exception"
  let asks := exception.isSome || !((Fields.get? all "exc_info").getD .null).isBlank
  let stackText := (stack.map fun stack => "\n" ++ stack ++ if asks then rule else "").getD ""
  let exceptionText := (exception.map fun exception => "\n" ++ exception).getD ""
  return ((headline entry fields ++ stackText ++ exceptionText).splitOn "\n").map trimEnd

end Log
end InstanceDirectory
