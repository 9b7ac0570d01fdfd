import InstanceDirectory.Proofs.Conduct
import InstanceDirectory.Proofs.Recording
import InstanceDirectory.Service

/-!
# The default language beside the lookup

Reading the default language of an instance asks the store for exactly what loading the
instance asks.  It answers the language of the instance that loading would answer.  When
the repository fails as a query, the undefined language is answered and the fallback is
reported.  An observation that repeats a key of this report takes the answer away again:
the call then fails for giving a field twice.
-/

namespace InstanceDirectory

/-- No entry repeats a key that the report of a fallback, or the log, uses already. -/
def Reporter.AdmitsFallback (reporter : Reporter) : Prop :=
  ∀ entry ∈ reporter.entries,
    entry.1 ∉ ["fallback_instance_id", "reason", "event", "self"] ∧
      (Level.warning.isWritten reporter.least -> entry.1 ≠ "method_name")

/-- Which values a fallback reports has no influence on whether it can be reported. -/
theorem Event.isAdmittedBy_languageFallback_iff
    {instanceId reason : Value}
    {reporter : Reporter} :
    (Event.service (.languageFallback instanceId reason)).IsAdmittedBy reporter ↔
      reporter.AdmitsFallback := by
  unfold IsAdmittedBy LogEntry.Admits Reporter.AdmitsFallback
  apply forall₂_congr
  intro extra present
  simp only [Event.entry, ServiceEvent.entry, Fields.contains, List.any_cons, List.any_nil,
    Bool.or_false, Bool.or_eq_false_iff, beq_eq_false_iff_ne, LogEntry.keptKeys,
    LogEntry.writtenKey, List.mem_cons, List.not_mem_nil, or_false, not_or, ne_eq, and_assoc,
    @eq_comm String extra.1]

namespace Service

variable {reporter : Reporter} {current : CurrentInstance} {account : Account Instance}

/-- What is recorded about a resolved request never makes a failure of the repository succeed. -/
theorem outcome_of_accountResolved
    {lookup : String}
    {inst : Instance}
    (returned : (accountResolved lookup reporter account).outcome = .ok inst) :
    account.outcome = .ok inst := by
  simp only [accountResolved, Account.andThen] at returned
  cases read : account.outcome with
  | ok stored =>
      rw [read] at returned
      exact Account.eq_ok_of_record returned
  | error failure =>
      rw [read] at returned
      cases kind : failure.query? with
      | none => simp [kind] at returned
      | some query =>
          simp only [kind] at returned
          exact absurd (Account.eq_ok_of_record returned) nofun

/-- The language of an instance that was read is the answer. -/
theorem outcome_accountLanguage_ok
    {inst : Instance}
    (read : account.outcome = .ok inst) :
    (accountLanguage reporter current account).outcome = .ok inst.defaultLanguage := by
  simp only [accountLanguage, Account.andThen, read]

/-- A failure that is not one of a query is the caller's. -/
theorem outcome_accountLanguage_other
    {failure : Failure}
    (read : account.outcome = .error failure)
    (other : failure.query? = none) :
    (accountLanguage reporter current account).outcome = .error failure := by
  simp only [accountLanguage, Account.andThen, read, other]

/--
A query failure is answered with the undefined language if the fallback can be reported, and
fails for the key that it gives twice if not.
-/
theorem outcome_accountLanguage_query
    {failure : Failure}
    (read : account.outcome = .error failure)
    (isQuery : failure.query?.isSome) :
    let outcome := (accountLanguage reporter current account).outcome
    (reporter.AdmitsFallback ∧ outcome = .ok .undefined) ∨
      (¬ reporter.AdmitsFallback ∧ ∃ key, outcome = .error (.duplicate key)) := by
  obtain ⟨⟨fault, errorId, details⟩, query⟩ := Option.isSome_iff_exists.mp isQuery
  simp only [accountLanguage, Account.andThen, read, query]
  rw [← @Event.isAdmittedBy_languageFallback_iff current.instanceId (.text errorId) reporter]
  rcases Account.record_cases (.service (.languageFallback current.instanceId (.text errorId)))
      reporter (.ok Language.undefined) with ⟨admits, recorded⟩ | ⟨refuses, key, recorded⟩
  · exact .inl ⟨admits, by rw [recorded]⟩
  · exact .inr ⟨refuses, key, by rw [recorded]⟩

/--
What the default language has to do with the lookup of its instance and with the read of the
repository that both are made of.
-/
structure LanguageAgrees
    (reporter : Reporter) (stored lookup : Conduct Instance) (language : Conduct Language) :
    Prop where
  /-- The same exchanges take place with the driver. -/
  sameExchanges : language.exchanges = lookup.exchanges
  /-- What is shared with others is left alike. -/
  sameSite : language.site = lookup.site
  /-- The context abandons both or none of them. -/
  sameAbandoned : language.abandoned? = lookup.abandoned?
  /-- Both end or none of them does. -/
  sameEnd : language.outcome?.isSome = lookup.outcome?.isSome
  /-- The language of the instance that the lookup returns is the answer. -/
  ofInstance : ∀ inst, lookup.outcome? = some (.ok inst) ->
    language.outcome? = some (.ok inst.defaultLanguage)
  /-- A query failure is answered with the undefined language if the fallback is admitted. -/
  fallsBack : ∀ failure, stored.outcome? = some (.error failure) -> failure.query?.isSome ->
    (language.outcome? = some (.ok .undefined) ↔ reporter.AdmitsFallback)
  /-- A query failure whose fallback is not admitted ends in a field that is given twice. -/
  refused : ∀ failure, stored.outcome? = some (.error failure) -> failure.query?.isSome ->
    ¬ reporter.AdmitsFallback -> ∃ key, language.outcome? = some (.error (.duplicate key))
  /-- No other failure is answered. -/
  otherwise : ∀ failure, stored.outcome? = some (.error failure) -> failure.query? = none ->
    language.outcome? = some (.error failure)

/--
The default language asks for what the lookup asks for and answers the language of the
instance that the lookup returns.  A query failure of the repository is answered with the
undefined language exactly when the observation admits the report of the fallback.
-/
theorem defaultLanguage_agrees
    (service : Service)
    (reporter : Reporter)
    (current : CurrentInstance)
    (context : Context)
    (course : Course)
    (site : Site) :
    let bounded := service.boundedContext context course.now
    LanguageAgrees reporter
      ((service.repository.current reporter current).conduct bounded course site)
      ((service.currentInstance reporter current).conduct bounded course site)
      ((service.defaultLanguage reporter current).conduct bounded course site) := by
  intro bounded
  unfold currentInstance defaultLanguage
  rw [Read.conduct_mapAccount, Read.conduct_mapAccount]
  generalize (service.repository.current reporter current).conduct bounded course site = stored
  -- Both calls extend the account of the same read, so everything else is the same.
  have ended {outcome : Except Failure Instance} (stops : stored.outcome? = some outcome) :
      ∃ account, stored.account? = some account ∧ account.outcome = outcome :=
    Option.map_eq_some_iff.mp stops
  refine ⟨rfl, rfl, rfl, ?_, ?_, ?_, ?_, ?_⟩
  · simp [Conduct.outcome?]
  · intro inst returned
    simp only [Conduct.outcome?, Option.map_map, Option.map_eq_some_iff] at returned ⊢
    obtain ⟨account, isAccount, returned⟩ := returned
    exact ⟨account, isAccount, outcome_accountLanguage_ok (outcome_of_accountResolved returned)⟩
  · intro failure failed isQuery
    obtain ⟨account, isAccount, read⟩ := ended failed
    simp only [Conduct.outcome?, isAccount, Option.map_some, Option.some.injEq]
    rcases @outcome_accountLanguage_query reporter current account failure read isQuery with
      ⟨admits, undefined⟩ | ⟨refuses, key, repeated⟩
    · exact iff_of_true undefined admits
    · exact iff_of_false (by rw [repeated]; exact nofun) refuses
  · intro failure failed isQuery refuses
    obtain ⟨account, isAccount, read⟩ := ended failed
    simp only [Conduct.outcome?, isAccount, Option.map_some, Option.some.injEq]
    rcases @outcome_accountLanguage_query reporter current account failure read isQuery with
      ⟨admits, -⟩ | ⟨-, repeated⟩
    · exact absurd admits refuses
    · exact repeated
  · intro failure failed other
    obtain ⟨account, isAccount, read⟩ := ended failed
    simp only [Conduct.outcome?, isAccount, Option.map_some, Option.some.injEq]
    exact outcome_accountLanguage_other read other

/-- An instance that is asked for by its identifier. -/
def absent : CurrentInstance where
  instanceId := .text "acme"
  requestedDomain := "acme.example"

/-- Without an observation the language of an absent instance is the undefined one. -/
theorem defaultLanguage_of_absent :
    ((({} : Service).defaultLanguage {} absent).conduct { signal := 0 }
      (.answeredBy (.granting .null) 1) {}).outcome? = some (.ok .undefined) := by
  have agrees := defaultLanguage_agrees {} {} absent { signal := 0 }
    (.answeredBy (.granting .null) 1) {}
  have admits : ({} : Reporter).AdmitsFallback := by
    intro entry present
    cases present
  exact (agrees.fallsBack (.notFound [("lookup", .text "instance_by_id"), ("key", .text "acme")])
    rfl rfl).mpr admits

/-- A reporter whose observation has a reason of its own. -/
def reasoning : Reporter where
  observation := some { extra := [("reason", .text "retry")] }

/-- With such an observation the absent instance is a query failure, yet no language is answered. -/
theorem defaultLanguage_refused_of_reasoning :
    ((({} : Service).repository.current reasoning absent).conduct { signal := 0 }
        (.answeredBy (.granting .null) 1) {}).outcome? =
      some (.error (.notFound [("lookup", .text "instance_by_id"), ("key", .text "acme")])) ∧
    ((({} : Service).defaultLanguage reasoning absent).conduct { signal := 0 }
        (.answeredBy (.granting .null) 1) {}).outcome? =
      some (.error (.duplicate "reason")) :=
  ⟨rfl, rfl⟩

end Service
end InstanceDirectory
