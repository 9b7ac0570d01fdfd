import InstanceDirectory.Failure
import InstanceDirectory.Schema.Identifier

/-!
# The read tables

Instances are read from two tables: the projected instances, and the domains bound to
them.  A schema names the tables; their columns and column types are fixed.
-/

namespace InstanceDirectory

/-- The two read tables. -/
inductive Table where
  | instances
  | domains
deriving DecidableEq, Inhabited

/-- The types of columns and of bound values. -/
inductive SqlType where
  | varchar
  | text
  | timestampWithZone
  | timestampWithoutZone
  | bigint
  | integer
  | smallint
  | float
  | bytea
  | date
deriving DecidableEq, Inhabited

/-- The name of a type in statement text. -/
def SqlType.name : SqlType -> String
  | varchar => "VARCHAR"
  | text => "TEXT"
  | timestampWithZone => "TIMESTAMP WITH TIME ZONE"
  | timestampWithoutZone => "TIMESTAMP WITHOUT TIME ZONE"
  | bigint => "BIGINT"
  | integer => "INTEGER"
  | smallint => "SMALLINT"
  | float => "FLOAT"
  | bytea => "BYTEA"
  | date => "DATE"

/-- The columns of both tables. -/
inductive Column where
  | id
  | displayName
  | creationDate
  | changeDate
  | sequence
  | globalOrgId
  | iamProjectId
  | consoleClientId
  | consoleAppId
  | setupStarted
  | setupDone
  | defaultLanguage
  | boundInstanceId
  | boundDomain
deriving DecidableEq, Inhabited

namespace Column

/-- The table that a column belongs to. -/
def table : Column -> Table
  | boundInstanceId => .domains
  | boundDomain => .domains
  | _ => .instances

/-- The name of a column within its table. -/
def name : Column -> String
  | id => "id"
  | displayName => "name"
  | creationDate => "creation_date"
  | changeDate => "change_date"
  | sequence => "sequence"
  | globalOrgId => "global_org_id"
  | iamProjectId => "iam_project_id"
  | consoleClientId => "console_client_id"
  | consoleAppId => "console_app_id"
  | setupStarted => "setup_started"
  | setupDone => "setup_done"
  | defaultLanguage => "default_language"
  | boundInstanceId => "instance_id"
  | boundDomain => "domain"

/-- The type of a column. -/
def type : Column -> SqlType
  | displayName => .text
  | creationDate => .timestampWithZone
  | changeDate => .timestampWithZone
  | sequence => .bigint
  | setupStarted => .smallint
  | setupDone => .smallint
  | _ => .varchar

/-- All columns of the instance table. -/
def ofInstances : List Column := [
    id, displayName, creationDate, changeDate, sequence, globalOrgId, iamProjectId,
    consoleClientId, consoleAppId, setupStarted, setupDone, defaultLanguage
  ]

/-- All columns of the domain table. -/
def ofDomains : List Column := [boundInstanceId, boundDomain]

/-- All columns of a table. -/
def ofTable : Table -> List Column
  | .instances => ofInstances
  | .domains => ofDomains

/-- How a message calls the columns of a table. -/
def noun : Table -> String
  | .instances => "InstanceColumn"
  | .domains => "InstanceDomainColumn"

/-- The column of a table with a given name. -/
def find (table : Table) (name : String) : Except Failure Column :=
  match (ofTable table).find? fun column => column.name == name with
  | some column => .ok column
  | none => .error (.value (Text.quoted name ++ " is not a valid " ++ noun table))

/-- The columns of an instance in the order in which rows hold them. -/
def projection : List Column := [
    id, creationDate, changeDate, sequence, globalOrgId, iamProjectId, consoleClientId,
    consoleAppId, setupStarted, setupDone, defaultLanguage
  ]

end Column

/-- The names of the read tables. -/
structure Schema where
  /-- The database schema of both tables; without one the search path decides. -/
  schemaName : Option String
  /-- The name of the instance table. -/
  instanceTable : String
  /-- The name of the domain table. -/
  domainTable : String
  /-- One name cannot stand for both tables. -/
  distinctTables : instanceTable ≠ domainTable
deriving DecidableEq

namespace Schema

/-- The name of a table. -/
def tableName (schema : Schema) : Table -> String
  | .instances => schema.instanceTable
  | .domains => schema.domainTable

/-- A table name after its schema name, neither of them quoted. -/
def qualify (schemaName : Option String) (table : String) : String :=
  match schemaName with
  | some schema => schema ++ "." ++ table
  | none => table

/-- The unquoted full name of a table. -/
def fullName (schema : Schema) (table : Table) : String :=
  qualify schema.schemaName (schema.tableName table)

/-- The failure of giving both tables one name. -/
def duplicateTable (fullName : String) : Failure where
  kind := .render .request
  message := "Table '" ++ fullName ++ "' is already defined for this MetaData instance.  "
    ++ "Specify 'extend_existing=True' to redefine options and columns on an existing Table "
    ++ "object."

/-- Describe the read tables. -/
def build (schemaName : Option String) (instanceTable domainTable : String) :
    Except Failure Schema :=
  if distinctTables : instanceTable ≠ domainTable then
    .ok { schemaName, instanceTable, domainTable, distinctTables }
  else .error (duplicateTable (qualify schemaName domainTable))

/-- The read tables of a standard installation. -/
def standard : Schema where
  schemaName := some "projections"
  instanceTable := "instances"
  domainTable := "instance_domains"
  distinctTables := by decide

/-- A table in statement text; an absent or empty schema name writes no qualifier. -/
def tableText (schema : Schema) (table : Table) : String :=
  let name := Identifier.write (schema.tableName table)
  match schema.schemaName with
  | some qualifier => if qualifier.isEmpty then name else Identifier.write qualifier ++ "." ++ name
  | none => name

/-- A column in statement text, always after its table. -/
def columnText (schema : Schema) (column : Column) : String :=
  schema.tableText column.table ++ "." ++ Identifier.write column.name

/-- The instances with the domains bound to them; an instance without a domain is kept. -/
def joinText (schema : Schema) : String :=
  schema.tableText .instances ++ " LEFT OUTER JOIN " ++ schema.tableText .domains ++ " ON "
    ++ schema.columnText .boundInstanceId ++ " = " ++ schema.columnText .id

end Schema
end InstanceDirectory
