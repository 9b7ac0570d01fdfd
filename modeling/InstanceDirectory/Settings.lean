import InstanceDirectory.Schema
import InstanceDirectory.Settings.Lax

/-!
# Settings

Settings come from what a caller gives, then from the environment, then from defaults.
Names are matched without regard to case, those that a caller gives no less than those of
the environment.  Every field that is not acceptable is reported, in the order in which the
fields are declared.
-/

namespace InstanceDirectory

-- A power is the core library's here, whatever other library is in scope.
attribute [local instance (high)] instPowNat

namespace Settings

/-- Where settings come from. -/
structure Source where
  /-- What the caller gives, by field name. -/
  given : Fields := []
  /-- The environment. -/
  environment : List (String × String) := []

/-- A name in lower case. -/
def foldName (name : String) : String :=
  String.ofList (name.toList.map Char.toLower)

/-- The first entry whose name is the given lower-case one in some case. -/
def firstNamed (entries : List (String × α)) (name : String) : Option α :=
  (entries.find? fun entry => foldName entry.1 == name).map Prod.snd

/--
The value of a field: given ones take precedence over the environment.  Of given values
whose names differ in case the first one counts, also when a later one has the name of the
field as it is declared, and of environment values the last one.
-/
def Source.raw (source : Source) (envStem field : String) : Option Value :=
  firstNamed source.given field
    <|> (firstNamed source.environment.reverse (envStem ++ field)).map .text

/-- Settings, or everything that is wrong with them. -/
abbrev Checked (α : Type) : Type := Except (List FieldFault) α

/-- Combine a checked function with a checked argument; the faults of both are kept. -/
def Checked.apply (function : Checked (α -> β)) (argument : Checked α) : Checked β :=
  match function, argument with
  | .ok function, .ok argument => .ok (function argument)
  | .error faults, .ok _ => .error faults
  | .ok _, .error faults => .error faults
  | .error first, .error second => .error (first ++ second)

/-- Read a field, or take its default when it is not set. -/
def field
    (source : Source) (envStem name : String) (fallback : α)
    (read : Value -> Except Complaint α) : Checked α :=
  match source.raw envStem name with
  | none => .ok fallback
  | some value =>
      match read value with
      | .ok answer => .ok answer
      | .error complaint => .error [⟨some name, complaint.rule, complaint.explanation⟩]

/-- The failure of settings that are not acceptable. -/
def refusal (faults : List FieldFault) : Failure where
  kind := .invalidSettings faults
  message := ""

end Settings

/-- How to reach the database, and how many connections to keep. -/
structure DatabaseSettings where
  /-- The host of the database. -/
  host : String := "localhost"
  /-- The port of the database. -/
  port : Int := 5432
  /-- The name of the database. -/
  database : String := "controlplane"
  /-- The user of the database. -/
  username : String := "controlplane"
  /-- The password of the user. -/
  password : String := ""
  /-- How many connections are kept at least. -/
  leastConnections : Int := 2
  /-- How many connections are kept at most. -/
  mostConnections : Int := 10
  /-- Seconds after which the server abandons a statement; zero leaves it running. -/
  statementTimeout : Int := 30
deriving DecidableEq, Inhabited

namespace DatabaseSettings

open Settings

/-- The stem of the environment names of database settings. -/
def envStem : String := "controlplane_db_"

/-- Read a number of connections. -/
def connections (value : Value) : Except Complaint Int := do
  Lax.within 1 (some 100) (← Lax.integer value)

/-- Read a number of seconds that may be zero. -/
def seconds (value : Value) : Except Complaint Int := do
  Lax.within 0 none (← Lax.integer value)

/-- The fields of database settings, each on its own. -/
def fields (source : Source) : Checked DatabaseSettings :=
  let defaults : DatabaseSettings := {}
  let text (name fallback : String) := field source envStem name fallback Lax.text
  Checked.apply (Checked.apply (Checked.apply (Checked.apply (Checked.apply (Checked.apply
    (Checked.apply (Checked.apply (.ok DatabaseSettings.mk)
      (text "host" defaults.host))
      (field source envStem "port" defaults.port Lax.integer))
      (text "database" defaults.database))
      (text "username" defaults.username))
      (field source envStem "password" defaults.password Lax.secret))
      (field source envStem "pool_min_connections" defaults.leastConnections connections))
      (field source envStem "pool_max_connections" defaults.mostConnections connections))
      (field source envStem "statement_timeout_seconds" defaults.statementTimeout seconds)

/-- The fault of keeping more connections than are admitted. -/
def reversedBounds (settings : DatabaseSettings) : FieldFault where
  field := none
  rule := "value_error"
  explanation := "Value error, pool_max_connections (" ++ toString settings.mostConnections
    ++ ") must be >= pool_min_connections (" ++ toString settings.leastConnections ++ ")"

/-- Load database settings; the bounds on connections are compared when every field is fine. -/
def load (source : Source) : Checked DatabaseSettings :=
  match fields source with
  | .error faults => .error faults
  | .ok settings =>
      if settings.mostConnections < settings.leastConnections then
        .error [reversedBounds settings]
      else .ok settings

/-- Where the database is, without the password; the port is one that can be written out. -/
def connectionString (settings : DatabaseSettings) : String :=
  "postgresql://" ++ settings.username ++ "@" ++ settings.host ++ ":" ++ toString settings.port
    ++ "/" ++ settings.database

/-- What is shown in place of the password. -/
def passwordShown (settings : DatabaseSettings) : String :=
  if settings.password.isEmpty then "" else "**********"

/-- The failure of writing out a number with too many digits. -/
def tooManyDigits : Failure :=
  .value Value.tooManyDigits

/-- The decimal text of a number of milliseconds. -/
def milliseconds (number : Int) : Except Failure String :=
  if 10 ^ mostDigits ≤ number.natAbs then .error tooManyDigits else .ok (toString number)

/-- The settings of every session on the server. -/
def serverSettings (settings : DatabaseSettings) : Except Failure (List (String × String)) := do
  let readOnly := ("default_transaction_read_only", "on")
  if 0 < settings.statementTimeout then
    return [readOnly, ("statement_timeout", ← milliseconds (settings.statementTimeout * 1000))]
  else return [readOnly]

end DatabaseSettings

/-- Which tables are read, and how long a call may take. -/
structure QuerySettings where
  /-- The database schema of the read tables. -/
  projectionSchema : Option String := some "projections"
  /-- The name of the instance table. -/
  instanceTable : String := "instances"
  /-- The name of the domain table. -/
  domainTable : String := "instance_domains"
  /-- Seconds that a call may take when its caller sets no bound. -/
  defaultTimeout : Option Binary64 := none
deriving DecidableEq, Inhabited

namespace QuerySettings

open Settings

/-- The stem of the environment names of query settings. -/
def envStem : String := "controlplane_query_"

/-- Read the name of a table. -/
def tableName (value : Value) : Except Complaint String := do
  Lax.nonempty (← Lax.text value)

/-- Read a positive number of seconds. -/
def timeout (value : Value) : Except Complaint Binary64 := do
  Lax.positive (← Lax.number value)

/-- Load query settings. -/
def load (source : Source) : Checked QuerySettings :=
  let defaults : QuerySettings := {}
  Checked.apply (Checked.apply (Checked.apply (Checked.apply (.ok QuerySettings.mk)
    (field source envStem "projection_schema" defaults.projectionSchema (Lax.optional Lax.text)))
    (field source envStem "instance_table" defaults.instanceTable tableName))
    (field source envStem "domain_table" defaults.domainTable tableName))
    (field source envStem "default_timeout_seconds" defaults.defaultTimeout
      (Lax.optional timeout))

/-- The read tables that the settings name. -/
def schema (settings : QuerySettings) : Except Failure Schema :=
  Schema.build settings.projectionSchema settings.instanceTable settings.domainTable

end QuerySettings

/-- Settings of the process as a whole. -/
structure ProcessSettings where
  /-- Write events of the lowest level too. -/
  debug : Bool := false
deriving DecidableEq, Inhabited

/-- Load the settings of the process. -/
def ProcessSettings.load (source : Settings.Source) : Settings.Checked ProcessSettings :=
  Settings.Checked.apply (.ok ProcessSettings.mk)
    (Settings.field source "" "debug" false Settings.Lax.bool)

end InstanceDirectory
