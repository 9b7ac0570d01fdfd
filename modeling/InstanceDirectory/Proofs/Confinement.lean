import InstanceDirectory.Proofs.Attribution
import InstanceDirectory.Proofs.Sourcing

/-!
# Rejections and fired contexts leave the driver alone

A read whose statement is rejected asks the driver for nothing, and neither does a read whose
context has fired before it starts.  A read that ends in a rejection all the same was given it
by the driver.
-/

namespace InstanceDirectory

/-- A conduct has asked the driver for nothing and noted nothing. -/
structure Conduct.IsIdle (conduct : Conduct α) (site : Site) : Prop where
  exchanges : conduct.exchanges = []
  site : conduct.site = site

namespace Read

/-- A read under a context that has fired before asks the driver for nothing. -/
theorem isIdle_of_fired
    {context : Context}
    {course : Course}
    (fired : context.hasFired course.sent course.now)
    (read : Read β α)
    (site : Site) :
    (read.conduct context course site).IsIdle site := by
  cases read with
  | settled account => exact ⟨rfl, rfl⟩
  | awaiting operation conclude =>
      rw [conduct_of_fired fired]
      exact ⟨rfl, rfl⟩

/-- A read that ends in a rejection which no exchange was answered with asks nothing. -/
def LeavesDriverAlone (read : Read β α) : Prop :=
  ∀ (context : Context) (course : Course) (site : Site) (account : Account α)
    (failure : Failure),
    (read.conduct context course site).account? = some account ->
    account.outcome = .error failure -> failure.isRejection ->
    (∀ exchange ∈ (read.conduct context course site).exchanges,
      exchange.failure? ≠ some failure) ->
    (read.conduct context course site).IsIdle site

theorem Relays.leavesDriverAlone {read : Read β α} (relays : read.Relays) :
    read.LeavesDriverAlone := by
  intro context course site account failure ended failed isRejection ownRejection
  rcases relays.untouched_or_answered ended failed isRejection with
    ⟨noExchange, sameSite⟩ | ⟨exchange, happened, answered⟩
  · exact ⟨noExchange, sameSite⟩
  · exact absurd answered (ownRejection exchange happened)

end Read

/-- A context that has fired has still fired when it is bounded. -/
theorem Context.hasFired_bounded
    {context : Context}
    {sent : List Signal}
    {now : Instant}
    (fired : context.hasFired sent now)
    (span : Option Duration) :
    (context.bounded now span).hasFired sent now := by
  rw [hasFired, Bool.or_eq_true] at fired ⊢
  rcases fired with cancelled | due
  · left
    rw [isCancelled, signal_bounded]
    exact cancelled
  · right
    cases span with
    | none => exact due
    | some span =>
        cases deadlineValue : context.deadline with
        | none => simp [isDue, deadlineValue] at due
        | some deadline =>
            have passed : deadline ≤ now := by simpa [isDue, deadlineValue] using due
            have earlier : min (now + span) deadline ≤ now :=
              Int.le_trans (Int.min_le_right _ _) passed
            simpa [isDue, deadline_bounded_some, deadlineValue] using earlier

/-- A search whose chain does not compile is settled without an operation. -/
theorem Repository.search_settled
    {repository : Repository}
    {search : Search}
    (fails : ∀ statement, Chain.compile [.search search] repository.schema .page ≠ .ok statement)
    (reporter : Reporter) :
    ∃ account, repository.search reporter search = .settled account := by
  rcases repository.compileThen_cases searchName reporter (searchDraft search)
    (fun statement => .awaiting (repository.searchOperation statement)
      (concludeSearch reporter)) with settled | ⟨statement, compiled, -⟩
  · exact settled
  · rw [← Chain.compile_search] at compiled
    exact absurd compiled (fails statement)

namespace Repository

/--
Chains of the repository's own predicates compile exactly when they stay inside their source,
are rejected otherwise, and then mention no table outside it.  A rejected search and a read
whose context has fired leave the driver alone, and so does every read that ends in a
rejection which the driver has not raised itself.
-/
theorem reads_confined (repository : Repository) (reporter : Reporter) :
    (∀ (chain : Chain) (selection : Selection), chain.Builds ->
      ((∃ statement, chain.compile repository.schema selection = .ok statement) ↔
        chain.StaysInside selection) ∧
      (chain.StaysInside selection -> chain.CompilesInside repository.schema selection) ∧
      (¬ chain.StaysInside selection ->
        chain.compile repository.schema selection = .error {
          kind := .query .invalidArgument "QUERY-M9fow" []
          message := "Errors.Query.SQLStatement" })) ∧
    (∀ (search : Search),
      (∀ statement,
        Chain.compile [.search search] repository.schema .page ≠ .ok statement) ->
      ∀ (context : Context) (course : Course) (site : Site),
        ((repository.search reporter search).conduct context course site).IsIdle site) ∧
    (∀ (resolution : Resolution), (resolution.read repository reporter).LeavesDriverAlone) ∧
    (∀ (search : Search), (repository.search reporter search).LeavesDriverAlone) ∧
    (∀ (β α : Type) (read : Read β α) (context : Context) (span : Option Duration)
      (course : Course) (site : Site), context.hasFired course.sent course.now ->
      (read.conduct (context.bounded course.now span) course site).IsIdle site) := by
  refine ⟨fun chain selection builds => ?statements,
    fun search fails context course site => ?rejected, fun resolution => ?resolutions,
    fun search => ?searches, fun β α read context span course site fired => ?fired⟩
  case statements =>
    refine ⟨⟨?_, fun inside => ?_⟩, Chain.compilesInside_of_staysInside _ builds,
      Chain.compile_of_not_staysInside _ builds⟩
    · rintro ⟨statement, compiled⟩
      by_contra leaves
      rw [Chain.compile_of_not_staysInside _ builds leaves] at compiled
      cases compiled
    · obtain ⟨statement, pieces, compiled, -⟩ :=
        (Chain.compilesInside_of_staysInside repository.schema builds inside).mentions
      exact ⟨statement, compiled⟩
  case rejected =>
    obtain ⟨account, settled⟩ := search_settled fails reporter
    rw [settled]
    exact ⟨rfl, rfl⟩
  case resolutions => exact (resolution.read_relays repository reporter).leavesDriverAlone
  case searches => exact (repository.search_relays reporter search).leavesDriverAlone
  case fired => exact read.isIdle_of_fired (Context.hasFired_bounded fired span) site

/--
A search for a domain compiles over the join and is rejected as a page; the rejected one asks
the driver for nothing, and neither does a lookup under a cancelled context.
-/
theorem reads_confined_of_domain :
    let search : Search := { predicates := [.equals .boundDomain (.text "acme.example")] }
    (∃ statement, Chain.compile [.search search] .standard .byDomain = .ok statement) ∧
    (({} : Repository).search {} search |>.conduct { signal := 0 }
      (.answeredBy (.granting .null) 3) {}).IsIdle {} ∧
    ((Resolution.ofHost "acme.example").read {} {} |>.conduct { signal := 0 }
      { now := 0, sent := [0], moments := [], sentLater := [0] } {}).IsIdle {} := by
  intro search
  have builds : Chain.Builds [.search search] := by
    intro predicate applied
    rw [List.mem_singleton.mp applied]
    exact ⟨nofun, _, rfl⟩
  have inside : Chain.StaysInside [.search search] .byDomain := by
    intro column used
    rw [List.mem_singleton.mp used]
    decide
  have leaves : ¬ Chain.StaysInside [.search search] .page := by
    intro stays
    exact absurd (stays .boundDomain List.mem_cons_self) (by decide)
  obtain ⟨statements, rejected, -, -, fired⟩ := reads_confined {} {}
  have fails (statement : Statement) :
      Chain.compile [.search search] .standard .page ≠ .ok statement := by
    intro compiled
    exact leaves ((statements _ .page builds).1.mp ⟨statement, compiled⟩)
  exact ⟨(statements _ _ builds).1.mpr inside, rejected search fails _ _ _,
    fired _ _ _ { signal := 0 } none _ _ rfl⟩

/-- A driver may raise a rejection itself, and then the read ends in it after a request. -/
theorem current_rejected_by_driver :
    let current : CurrentInstance := { instanceId := .text "a", requestedDomain := "acme" }
    ∃ (failure : Failure) (account : Account Instance) (exchange : Exchange),
      let conduct := (({} : Repository).current {} current).conduct { signal := 0 }
        (.answeredBy (fun _ => .error failure) 1) {}
      failure.isRejection ∧ account.outcome = .error failure ∧
      conduct.account? = some account ∧ exchange ∈ conduct.exchanges :=
  ⟨.invalidArgument "Errors.Query.InvalidRequest" "QUERY-pG4n8" [] none, _, _, rfl, rfl, rfl,
    List.mem_cons_self⟩

end Repository
end InstanceDirectory
