import InstanceDirectory.Account
import InstanceDirectory.Scan

/-!
# Reading instances

Three reads: the instance that a request was resolved to, the instance bound to a host,
and a search.  Each is one statement.  Failures of the store, of decoding and of the
caller's context end in an internal failure, an absent row in a failed lookup, and a
statement that cannot be built in an invalid argument.  Each read records one event.
-/

namespace InstanceDirectory

/-- Everything before the first colon of a host. -/
def stripPort (host : String) : String :=
  String.ofList (host.toList.takeWhile (· != ':'))

/-- Where instances are read from. -/
structure Repository where
  /-- The read tables. -/
  schema : Schema := .standard
  /-- Where statements are executed. -/
  executor : Executor := .direct

/-- A lookup of one instance. -/
structure Lookup where
  /-- The name of the lookup. -/
  name : String
  /-- The identifying key as the caller gave it. -/
  key : Value
  /-- The host that the instance will carry. -/
  host : String

namespace Lookup

/-- What failures say about a lookup. -/
def details (lookup : Lookup) : Fields :=
  [("lookup", .text lookup.name), ("key", lookup.key)]

/-- Record a failed lookup and end with a failure. -/
def failed
    (lookup : Lookup) (reporter : Reporter) (recorded ending : Failure) :
    Account Instance :=
  .record (.read (.failed (.text lookup.name) lookup.key recorded)) reporter (.error ending)

/-- The account of a lookup from the outcome of its operation. -/
def conclude
    (lookup : Lookup) (reporter : Reporter) (outcome : Except Failure Value) :
    Account Instance :=
  match outcome with
  | .error failure =>
      if failure.isExecution then
        lookup.failed reporter failure
          (.internal "Errors.Internal" "QUERY-d9nw" lookup.details failure)
      else { outcome := .error failure }
  | .ok row =>
      match Row.single row lookup.host lookup.details with
      | .ok inst =>
          .record (.read (.retrieved (.text lookup.name) (.text inst.id))) reporter (.ok inst)
      | .error failure =>
          match failure.kind with
          | .query .internal _ _ => lookup.failed reporter failure failure
          | .query .notFound _ _ =>
              .record (.read (.missed (.text lookup.name) lookup.key)) reporter
                (.error failure)
          | _ => { outcome := .error failure }

end Lookup

namespace Repository

/-- Name the lookup in a rejection that does not name one. -/
def nameLookup (lookup : String) (failure : Failure) : Failure :=
  match failure.kind with
  | .query fault errorId details =>
      { failure with
        kind := .query fault errorId (Fields.insertIfAbsent details "lookup" (.text lookup)) }
  | _ => failure

/-- The account of a draft that does not compile. -/
def rejected (lookup : String) (reporter : Reporter) (failure : Failure) : Account α :=
  match failure.kind with
  | .query .invalidArgument _ _ =>
      let failure := nameLookup lookup failure
      .record (.read (.rejected (.text lookup) failure)) reporter (.error failure)
  | _ => { outcome := .error failure }

/-- Compile a draft and read with the statement; a draft that does not compile asks nothing. -/
def compileThen
    (repository : Repository) (lookup : String) (reporter : Reporter)
    (draft : Except Failure Draft) (next : Statement -> Read β α) : Read β α :=
  match draft with
  | .error failure => .settled { outcome := .error failure }
  | .ok draft =>
      match draft.compile repository.schema with
      | .ok statement => next statement
      | .error failure => .settled (rejected lookup reporter failure)

/-- A read is settled without a statement, or goes on with the statement that was compiled. -/
theorem compileThen_cases
    (repository : Repository)
    (lookup : String)
    (reporter : Reporter)
    (draft : Except Failure Draft)
    (next : Statement -> Read β α) :
    (∃ account, repository.compileThen lookup reporter draft next = .settled account) ∨
    ∃ statement, (draft >>= Draft.compile repository.schema) = .ok statement ∧
      repository.compileThen lookup reporter draft next = next statement := by
  rcases draft with failure | draft
  · exact .inl ⟨_, rfl⟩
  · cases compiled : draft.compile repository.schema with
    | error failure =>
        exact .inl ⟨rejected lookup reporter failure, by simp only [compileThen, compiled]⟩
    | ok statement => exact .inr ⟨statement, compiled, by simp only [compileThen, compiled]⟩

/-- Look up one instance by a draft. -/
def lookUp
    (repository : Repository) (reporter : Reporter) (lookup : Lookup)
    (draft : Except Failure Draft) : Read Value Instance :=
  repository.compileThen lookup.name reporter draft fun statement =>
    .awaiting (repository.executor.fetchRow statement) (lookup.conclude reporter)

/-- The statement that finds an instance by its identity. -/
def currentDraft (current : CurrentInstance) : Except Failure Draft :=
  ({ selection := .single } : Draft).filter [.equals .id current.instanceId]

/-- Load the instance that a request was resolved to. -/
def current
    (repository : Repository) (reporter : Reporter) (current : CurrentInstance) :
    Read Value Instance :=
  repository.lookUp reporter
    { name := "instance_by_id", key := current.instanceId, host := current.requestedDomain }
    (currentDraft current)

/-- The statement that finds an instance by a domain bound to it. -/
def hostDraft (domain : String) : Except Failure Draft :=
  ({ selection := .byDomain } : Draft).filter [.equals .boundDomain (.text domain)]

/-- Find the instance bound to a host; a port is ignored. -/
def byHost (repository : Repository) (reporter : Reporter) (host : String) :
    Read Value Instance :=
  repository.lookUp reporter
    { name := "instance_by_host", key := .text (stripPort host), host }
    (hostDraft (stripPort host))

/-- The name of a search in events and failures. -/
def searchName : String := "search_instances"

/-- What failures say about a search. -/
def searchDetails : Fields := [("lookup", .text searchName)]

/-- The statement of a search. -/
def searchDraft (search : Search) : Except Failure Draft :=
  ({ selection := .page } : Draft).search search

/-- The operation of a search: its rows are opened, read and closed in one go. -/
def searchOperation (repository : Repository) (statement : Statement) : Operation Page :=
  (repository.executor.openRows statement).andThen fun cursor => Scan.run cursor searchDetails

/-- Record a failed search and end with a failure. -/
def searchFailed (reporter : Reporter) (recorded ending : Failure) : Account Page :=
  .record (.read (.failed (.text searchName) (.text "") recorded)) reporter (.error ending)

/-- The account of a search from the outcome of its operation. -/
def concludeSearch (reporter : Reporter) (outcome : Except Failure Page) : Account Page :=
  match outcome with
  | .ok page =>
      .record (.read (.listed (.ofNat page.instances.length) page.total.toValue)) reporter
        (.ok page)
  | .error failure =>
      if failure.isExecution then
        searchFailed reporter failure
          (.internal "Errors.Internal" "QUERY-3j98f" searchDetails failure)
      else
        match failure.kind with
        | .query .internal _ _ => searchFailed reporter failure failure
        | _ => { outcome := .error failure }

/-- List the instances that match a search, with the number of all matches. -/
def search (repository : Repository) (reporter : Reporter) (search : Search) :
    Read Page Page :=
  repository.compileThen searchName reporter (searchDraft search) fun statement =>
    .awaiting (repository.searchOperation statement) (concludeSearch reporter)

end Repository
end InstanceDirectory
