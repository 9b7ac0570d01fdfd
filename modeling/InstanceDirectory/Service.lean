import InstanceDirectory.Repository

/-!
# The service

The service reads on behalf of request handling.  It bounds every call by the configured
timeout, records what became of a call, and answers the default language of an instance
even when the instance cannot be read.
-/

namespace InstanceDirectory

/-- The reads that request handling is offered. -/
structure Service where
  /-- Where instances are read from. -/
  repository : Repository := {}
  /-- The time that a call may take when its caller sets no earlier deadline. -/
  defaultTimeout : Option Duration := none

/-- The nearest number of microseconds to a positive number of seconds; infinity is no bound. -/
def Binary64.toDuration? (seconds : Binary64) : Option Duration :=
  if seconds.isFinite then
    some (Binary64.roundHalfEven (seconds.numerator * 1000000) seconds.denominator)
  else none

namespace Service

/-- A service over an executor, configured by settings. -/
def build (executor : Executor) (settings : QuerySettings) : Except Failure Service := do
  let schema ← settings.schema
  return {
    repository := { schema, executor }
    defaultTimeout := settings.defaultTimeout.bind Binary64.toDuration? }

/-- The context under which the service carries out a call. -/
def boundedContext (service : Service) (context : Context) (now : Instant) : Context :=
  context.bounded now service.defaultTimeout

/-- Record what became of resolving a request. -/
def accountResolved (lookup : String) (reporter : Reporter) (account : Account Instance) :
    Account Instance :=
  account.andThen fun outcome =>
    match outcome with
    | .ok inst => .record (.service (.resolved (.text lookup) (.text inst.id))) reporter outcome
    | .error failure =>
        match failure.query? with
        | some (_, errorId, _) =>
            .record (.service (.resolutionFailed (.text lookup) (.text errorId)
              (.text failure.message))) reporter outcome
        | none => { outcome }

/-- Load the instance that a request was resolved to. -/
def currentInstance
    (service : Service) (reporter : Reporter) (current : CurrentInstance) :
    Read Value Instance :=
  (service.repository.current reporter current).mapAccount
    (accountResolved "current" reporter)

/-- Find the instance bound to a host. -/
def instanceByHost (service : Service) (reporter : Reporter) (host : String) :
    Read Value Instance :=
  (service.repository.byHost reporter host).mapAccount (accountResolved "host" reporter)

/-- Record a completed search. -/
def accountSearched (reporter : Reporter) (account : Account Page) : Account Page :=
  account.andThen fun outcome =>
    match outcome with
    | .ok page =>
        .record (.service (.searched (.ofNat page.instances.length) page.total.toValue))
          reporter outcome
    | .error _ => { outcome }

/-- List the instances that match a search. -/
def searchInstances (service : Service) (reporter : Reporter) (search : Search) :
    Read Page Page :=
  (service.repository.search reporter search).mapAccount (accountSearched reporter)

/-- Take the language of an instance, or the undefined one when the read failed as a query. -/
def accountLanguage
    (reporter : Reporter) (current : CurrentInstance) (account : Account Instance) :
    Account Language :=
  account.andThen fun
    | .ok inst => { outcome := .ok inst.defaultLanguage }
    | .error failure =>
        match failure.query? with
        | some (_, errorId, _) =>
            .record (.service (.languageFallback current.instanceId (.text errorId))) reporter
              (.ok .undefined)
        | none => { outcome := .error failure }

/-- The default language of the instance that a request was resolved to. -/
def defaultLanguage
    (service : Service) (reporter : Reporter) (current : CurrentInstance) :
    Read Value Language :=
  (service.repository.current reporter current).mapAccount
    (accountLanguage reporter current)

end Service
end InstanceDirectory
