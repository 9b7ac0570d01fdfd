import InstanceDirectory.Log
import InstanceDirectory.Rehearsal.Clock
import InstanceDirectory.Rehearsal.Waiting
import InstanceDirectory.Service

/-!
# Sessions

A session is a sequence of steps against a rehearsed store.  Steps create and cancel
contexts, let time pass, read instances, and use the pool and its connections directly.
Each step reports its answer, the time it took, the contact with the driver and the
events that were recorded.
-/

namespace InstanceDirectory
namespace Rehearsal

/-- What a step does. -/
inductive Step where
  | create (name : String) (span : Option Duration) (observation : Observation)
  | bound (context : String) (span : Option Duration) (name : String)
  | cancel (context : String)
  | inspect (context : String)
  | check (context : String)
  | advance (span : Duration)
  | perform (context : String)
  | current (context : String) (current : CurrentInstance)
  | defaultLanguage (context : String) (current : CurrentInstance)
  | byHost (context : String) (host : String)
  | search (context : String) (search : Except Failure Search)
  | openPool
  | closePool
  | isOpen
  | acquire (name : String)
  | release (name : String)
  | fetchRow (statement : Statement)
  | fetch (name : String) (statement : Statement)
  | closeCursor (name : String)
  | inspectCursor (name : String)
  | read (name : String) (most : Option Nat)
  | compose

/-- The name of the context that a step uses. -/
def Step.context? : Step -> Option String
  | .bound context _ _ => some context
  | .cancel context => some context
  | .inspect context => some context
  | .check context => some context
  | .perform context => some context
  | .current context _ => some context
  | .defaultLanguage context _ => some context
  | .byHost context _ => some context
  | .search context _ => some context
  | _ => none

/-- A step with the circumstances under which it is taken. -/
structure Cued where
  /-- What the step does. -/
  step : Step
  /-- How the store answers from now on. -/
  script : Option Script := none
  /-- Cancel the context of the step after this span, even if the step has ended. -/
  cancelAfter : Option Duration := none
  /-- Tell the caller to stop after this span. -/
  stopAfter : Option Duration := none

/-- What a step answers. -/
inductive Answer where
  | nothing
  | accepted
  | truth (holds : Bool)
  | number (connection : Connection)
  | context (cancelled : Bool) (remaining : Option Duration) (observation : Fields)
      (same : Option Bool)
  | inst (inst : Instance)
  | page (page : Page)
  | language (language : Language)
  | value (value : Value)
  | rows (rows : List Value)
  | cursor (closed : Bool)
  | composition (debug : Bool)

/-- What a step reports. -/
structure Report where
  /-- The answer. -/
  answer : Except Failure Answer
  /-- The time that the step took. -/
  elapsed : Duration
  /-- The contact with the driver. -/
  contacts : List Contact
  /-- The events that were recorded. -/
  entries : List LogEntry

/-- Who answers the reads of a session. -/
inductive Desk where
  | repository (repository : Repository)
  | service (service : Service)
  | vacant

/-- How a session is set up. -/
inductive Setup where
  /-- A desk over a store of the caller's own. -/
  | direct
  /-- A desk over a pool with the given settings. -/
  | pooled (database : Settings.Source) (prefetch : Int)
  /-- Everything comes from the environment. -/
  | composed (environment : Settings.Source)

/-- A session between two steps. -/
structure Session where
  /-- The rehearsed world. -/
  world : World := {}
  /-- Who answers reads. -/
  desk : Desk := .vacant
  /-- The settings of the pool. -/
  database : DatabaseSettings := {}
  /-- How many rows are read at a time. -/
  prefetch : Int := 100
  /-- The environment, when the session is composed from it. -/
  environment : Settings.Source := {}
  /-- Whether events of the lowest level are written, once that is configured. -/
  debug : Option Bool := none
  /-- Borrowed connections by name. -/
  connections : List (String × Connection) := []
  /-- Cursors by name. -/
  cursors : List (String × CursorHandle) := []

namespace Session

/-- Settings that were loaded, or the failure that reports their faults. -/
def accepted (checked : Settings.Checked α) : Except Failure α :=
  checked.mapError Settings.refusal

/-- The executor of a set-up. -/
def executor : Setup -> Executor
  | .direct => .direct
  | .pooled _ prefetch => .pooled prefetch
  | .composed _ => .pooled 100

/-- The settings of the pool of a set-up. -/
def databaseSettings : Setup -> Except Failure DatabaseSettings
  | .direct => .ok {}
  | .pooled source _ => accepted (DatabaseSettings.load source)
  | .composed environment => accepted (DatabaseSettings.load environment)

/-- Start a session whose desk is built over the executor of the set-up. -/
def start (setup : Setup) (desk : Executor -> Except Failure Desk) : Except Failure Session := do
  let database ← databaseSettings setup
  match setup with
  | .composed environment => return { database, environment }
  | setup =>
      let executor := executor setup
      return {
        database
        desk := ← desk executor
        prefetch := match executor with
          | .direct => 100
          | .pooled prefetch => prefetch }

/-- A desk at which a repository answers. -/
def repositoryDesk (schema : Except Failure Schema) (executor : Executor) : Except Failure Desk := do
  return .repository { schema := ← schema, executor }

/-- A desk at which a service answers. -/
def serviceDesk (source : Settings.Source) (executor : Executor) : Except Failure Desk := do
  return .service (← Service.build executor (← accepted (QuerySettings.load source)))

/-- The failure of reading at a vacant desk. -/
def notComposed : Failure where
  kind := .other "NotComposed"
  message := "call compose first"

/-- The failure of naming something that does not exist. -/
def unknownName (name : String) : Failure where
  kind := .missingKey
  message := Text.quoted name

/-- An entry of a list of named things. -/
def named (entries : List (String × α)) (name : String) : Except Failure α :=
  match entries.find? fun entry => entry.1 == name with
  | some entry => .ok entry.2
  | none => .error (unknownName name)

/-- Name something; an earlier thing of that name is forgotten. -/
def setNamed (entries : List (String × α)) (name : String) (thing : α) : List (String × α) :=
  (name, thing) :: entries.filter fun entry => entry.1 != name

/-- The account of a context. -/
def contextAnswer (world : World) (context : Context) (same : Option Bool) :
    Except Failure Answer := do
  let remaining ← (context.remaining world.now).mapM Clock.told
  return .context (context.isCancelled world.sent) remaining context.observation.entries same

/-- The context of a given name. -/
def context (session : Session) (name : String) : Except Failure Context :=
  match session.world.context? name with
  | some context => .ok context
  | none => .error (unknownName name)

/-- The least level of events that are written; all are until writing is configured. -/
def least (session : Session) : Level :=
  (session.debug.map Log.threshold).getD .debug

/-- What the log is told under a context. -/
def reporter (session : Session) (context : Context) : Reporter where
  observation := some context.observation
  least := session.least

/-- The context under which a service carries out a call. -/
def boundedContext (session : Session) (service : Service) (context : Context) : Context :=
  let now := session.world.now
  { service with defaultTimeout := service.defaultTimeout.map (Clock.span now) }.boundedContext
    context now

/-- The moment at which the caller of a step is told to stop. -/
def stopAt (session : Session) (cued : Cued) : Option Instant :=
  cued.stopAfter.map (session.world.now + ·)

/-- Write recorded events to the journal. -/
def logEntries (world : World) (entries : List LogEntry) : World :=
  { world with site := entries.foldl (fun site entry => site.note (.logged entry)) world.site }

/-- Take a read to its account and write down the events of the account. -/
def takeRead
    (world : World) (context : Context) (stopAt : Option Instant) (read : Read β α) :
    World × Except Failure α :=
  match read with
  | .settled account => (logEntries world account.entries, account.outcome)
  | .awaiting operation conclude =>
      let (world, outcome) := world.carryOutUnder context stopAt operation
      let account := conclude outcome
      (logEntries world account.entries, account.outcome)

/-- Finish a step with a world and an answer. -/
def finish
    (session : Session) (world : World) (outcome : Except Failure α) (answer : α -> Answer) :
    Session × Except Failure Answer :=
  ({ session with world }, outcome.map answer)

/-- Carry out an operation in the caller's own task. -/
def direct (session : Session) (cued : Cued) (operation : Operation α) :
    World × Except Failure α :=
  session.world.carryOut (session.stopAt cued) operation

/-- Look up an instance at the desk. -/
def lookUp
    (session : Session) (cued : Cued) (contextName : String)
    (atRepository : Repository -> Reporter -> Read Value Instance)
    (atService : Service -> Reporter -> Read Value Instance) :
    Session × Except Failure Answer :=
  match session.context contextName with
  | .error failure => (session, .error failure)
  | .ok context =>
      let stopAt := session.stopAt cued
      match session.desk with
      | .vacant => (session, .error notComposed)
      | .repository repository =>
          let (world, outcome) := takeRead session.world context stopAt
            (atRepository repository (session.reporter context))
          session.finish world outcome .inst
      | .service service =>
          let (world, outcome) := takeRead session.world
            (session.boundedContext service context) stopAt
            (atService service (session.reporter context))
          session.finish world outcome .inst

/-- Search at the desk; a vacant one does not look at what is searched. -/
def searchAt
    (session : Session) (cued : Cued) (contextName : String) (search : Except Failure Search) :
    Session × Except Failure Answer :=
  match session.context contextName with
  | .error failure => (session, .error failure)
  | .ok context =>
      let stopAt := session.stopAt cued
      match session.desk, search with
      | .vacant, _ => (session, .error notComposed)
      | _, .error failure => (session, .error failure)
      | .repository repository, .ok search =>
          let (world, outcome) := takeRead session.world context stopAt
            (repository.search (session.reporter context) search)
          session.finish world outcome .page
      | .service service, .ok search =>
          let (world, outcome) := takeRead session.world
            (session.boundedContext service context) stopAt
            (service.searchInstances (session.reporter context) search)
          session.finish world outcome .page

/-- Ask the desk for a default language; only a service answers. -/
def languageAt
    (session : Session) (cued : Cued) (contextName : String) (current : CurrentInstance) :
    Session × Except Failure Answer :=
  match session.context contextName with
  | .error failure => (session, .error failure)
  | .ok context =>
      match session.desk with
      | .service service =>
          let (world, outcome) := takeRead session.world
            (session.boundedContext service context)
            (session.stopAt cued)
            (service.defaultLanguage (session.reporter context) current)
          session.finish world outcome .language
      | _ => (session, .error notComposed)

/-- Build the service of a composed session and configure how events are written. -/
def composeDesk (session : Session) : Session × Except Failure Answer :=
  match accepted (ProcessSettings.load session.environment) with
  | .error failure => (session, .error failure)
  | .ok process =>
      let session := { session with debug := some process.debug }
      match serviceDesk session.environment (.pooled session.prefetch) with
      | .error failure => (session, .error failure)
      | .ok desk => ({ session with desk }, .ok (.composition process.debug))

/-- Stop reading rows once there are as many as asked for. -/
def judgeCount (most : Option Nat) (kept : List Value) (_ : Value) : Verdict :=
  match most with
  | some most => if most ≤ kept.length + 1 then .takeLast else .take
  | none => .take

/-- Close a named cursor. -/
def closeCursor (session : Session) (cued : Cued) (name : String) :
    Session × Except Failure Answer :=
  match named session.cursors name with
  | .error failure => (session, .error failure)
  | .ok handle =>
      let (handle, operation) := handle.close
      let (world, outcome) := session.direct cued operation
      { session with cursors := setNamed session.cursors name handle }.finish world outcome
        fun () => .cursor handle.isClosed

/-- Take a step. -/
def perform (session : Session) (cued : Cued) : Session × Except Failure Answer :=
  let world := session.world
  match cued.step with
  | .create name span observation =>
      let context := Context.create world.now (span.map (Clock.span world.now)) observation
        world.signals
      let world := { world with signals := world.signals + 1 }.setContext name context
      ({ session with world }, contextAnswer world context none)
  | .bound contextName span name =>
      match session.context contextName with
      | .error failure => (session, .error failure)
      | .ok context =>
          let span := span.map (Clock.span world.now)
          let derived := context.bounded world.now span
          ({ session with world := world.setContext name derived },
            contextAnswer world derived (some (context.isUnboundedBy world.now span)))
  | .cancel contextName =>
      match session.context contextName with
      | .error failure => (session, .error failure)
      | .ok context =>
          let world := world.send context.signal
          ({ session with world }, contextAnswer world context none)
  | .inspect contextName =>
      (session, do contextAnswer world (← session.context contextName) none)
  | .check contextName =>
      (session, do
        (← session.context contextName).check world.sent world.now
        return .accepted)
  | .advance span =>
      let (world, outcome) := world.sleep (session.stopAt cued) (Clock.span world.now span)
      session.finish world outcome fun () => .nothing
  | .perform contextName =>
      match session.context contextName with
      | .error failure => (session, .error failure)
      | .ok context =>
          let (world, outcome) := world.carryOutUnder context
            (session.stopAt cued) (.call .perform .done)
          session.finish world outcome .value
  | .current contextName current =>
      session.lookUp cued contextName (·.current · current) (·.currentInstance · current)
  | .byHost contextName host =>
      session.lookUp cued contextName (·.byHost · host) (·.instanceByHost · host)
  | .defaultLanguage contextName current => session.languageAt cued contextName current
  | .search contextName search => session.searchAt cued contextName search
  | .openPool =>
      let (world, outcome) := session.direct cued (Pool.establish session.database)
      session.finish world outcome fun () => .truth world.site.isOpen
  | .closePool =>
      let (world, outcome) := session.direct cued Pool.close
      session.finish world outcome fun () => .truth world.site.isOpen
  | .isOpen => (session, .ok (.truth world.site.isOpen))
  | .acquire name =>
      let (world, outcome) := session.direct cued Pool.acquire
      let connections :=
        match outcome with
        | .ok connection => setNamed session.connections name connection
        | .error _ => session.connections
      { session with connections }.finish world outcome .number
  | .release name =>
      match named session.connections name with
      | .error failure => (session, .error failure)
      | .ok connection =>
          let (world, outcome) := session.direct cued (Pool.release connection)
          session.finish world outcome fun () => .nothing
  | .fetchRow statement =>
      let (world, outcome) :=
        session.direct cued ((Executor.pooled session.prefetch).fetchRow statement)
      session.finish world outcome .value
  | .fetch name statement =>
      let (world, outcome) :=
        session.direct cued ((Executor.pooled session.prefetch).openRows statement)
      let cursors :=
        match outcome with
        | .ok cursor => setNamed session.cursors name { cursor }
        | .error _ => session.cursors
      { session with cursors }.finish world outcome fun _ => .cursor false
  | .closeCursor name => session.closeCursor cued name
  | .inspectCursor name =>
      (session, (named session.cursors name).map fun handle => .cursor handle.isClosed)
  | .read name most =>
      match named session.cursors name with
      | .error failure => (session, .error failure)
      | .ok handle =>
          let (world, outcome) := session.direct cued (handle.cursor.read (judgeCount most))
          session.finish world outcome .rows
  | .compose => session.composeDesk

/-- The contact that a journal tells of. -/
def contacts (journal : List Notice) : List Contact :=
  journal.filterMap fun
    | .contact contact => some contact
    | .logged _ => none

/-- The events that a journal tells of. -/
def entries (journal : List Notice) : List LogEntry :=
  journal.filterMap fun
    | .contact _ => none
    | .logged entry => some entry

/-- The events that are written: all of them as they are until writing is configured. -/
def written (session : Session) (entries : List LogEntry) : List LogEntry :=
  match session.debug with
  | none => entries
  | some debug =>
      (entries.filter fun entry => entry.level.isWritten (Log.threshold debug)).map
        (Log.structuredEntry [])

/-- The world in which a step is taken. -/
def worldOf (session : Session) (cued : Cued) : World :=
  let world := { session.world with
    script := cued.script.getD session.world.script
    site := { session.world.site with journal := [] } }
  match cued.cancelAfter, cued.step.context?.bind world.context? with
  | some span, some context => world.plan (world.now + span) context.signal
  | _, _ => world

/-- Take a step and report it. -/
def take (session : Session) (cued : Cued) : Session × Report :=
  let world := session.worldOf cued
  let began := world.now
  let (session, answer) := { session with world }.perform cued
  (session,
    { answer
      elapsed := ((Clock.told (session.world.now - began)).toOption).getD 0
      contacts := contacts session.world.site.journal
      entries := session.written (entries session.world.site.journal) })

/-- Take steps in order. -/
def takeAll (session : Session) : List Cued -> List Report
  | [] => []
  | cued :: rest =>
      let (session, report) := session.take cued
      report :: takeAll session rest

end Session

/--
Scan rows of the caller's own store with a script and report the contact with it.  Details
must not name the cursor once more; then the store is left alone.
-/
def scanRows (script : Script) (details : Fields) : List Contact × Except Failure Page :=
  if Fields.contains details "cursor" then ([], .error (.duplicate "cursor"))
  else
    let world : World := { script }
    let (world, outcome) := world.carryOut none (Scan.run .direct details)
    (Session.contacts world.site.journal, outcome)

end Rehearsal
end InstanceDirectory
