import InstanceDirectory.Proofs.HostBinding
import InstanceDirectory.Proofs.Matching
import Mathlib.Data.Option.Basic

/-!
# Hosts that differ after a colon

Whatever stands behind the first colon of a host has no part in its resolution.  Two hosts with
the same part before it are resolved by the same exchanges with the driver and record the same
events, and they fail alike; their instances differ in nothing but the host, which is the one
that each caller gave.
-/

namespace InstanceDirectory

/-! ## The part before the colon -/

/-- A host has one part before its first colon. -/
theorem IsBeforeColon.stripPort_eq
    {part host : String}
    (isBefore : IsBeforeColon part host) :
    stripPort host = part := by
  obtain ⟨noColon, shape⟩ := isBefore
  have passes : ∀ char ∈ part.toList, (char != ':') = true := by
    intro char present
    rw [bne_iff_ne]
    rintro rfl
    exact noColon present
  have taken : host.toList.takeWhile (· != ':') = part.toList := by
    rcases shape with same | ⟨rest, same⟩
    · rw [same, ← List.append_nil part.toList, List.takeWhile_append_of_pos passes]
      rfl
    · rw [same, List.takeWhile_append_of_pos passes]
      simp
  rw [stripPort, taken, String.ofList_toList]

theorem stripPort_of_not_mem {host : String} (noColon : ':' ∉ host.toList) :
    stripPort host = host :=
  IsBeforeColon.stripPort_eq ⟨noColon, .inl rfl⟩

theorem stripPort_stripPort (host : String) : stripPort (stripPort host) = stripPort host :=
  stripPort_of_not_mem (isBeforeColon_stripPort host).1

/-! ## Instances that differ in their hosts -/

/-- Two instances that each carry a host of their own and are the same otherwise. -/
structure Instance.SameBut (first second : String) (inst other : Instance) : Prop where
  host : inst.host = first
  otherHost : other.host = second
  same : { inst with host := second } = other

theorem Instance.SameBut.sameId
    {first second : String}
    {inst other : Instance}
    (same : inst.SameBut first second other) :
    inst.id = other.id := by
  rw [← same.same]

/-- Two computations that answer instances with the given hosts, or fail alike. -/
abbrev AlikeBut (first second : String) :
    Except Failure Instance -> Except Failure Instance -> Prop :=
  Related (Instance.SameBut first second) Eq

/-- Failures that are reported alike stay alike. -/
theorem AlikeBut.mapError
    {first second : String}
    {computation other : Except Failure Instance}
    (alike : AlikeBut first second computation other)
    (report : Failure -> Failure) :
    AlikeBut first second (computation.mapError report) (other.mapError report) := by
  cases alike with
  | ok same => exact .ok same
  | error same => exact .error (congrArg report same)

namespace Row

/-- The host has no part in reading columns. -/
theorem decodeColumns_eq_map (host : String) (columns : List Value) :
    decodeColumns host columns =
      (fun inst => { inst with host }) <$> decodeColumns "" columns := by
  unfold decodeColumns
  split
  · simp only [map_bind, map_pure]
  · rfl

theorem decodeColumns_alikeBut (first second : String) (columns : List Value) :
    AlikeBut first second (decodeColumns first columns) (decodeColumns second columns) := by
  rw [decodeColumns_eq_map first, decodeColumns_eq_map second]
  cases decodeColumns "" columns with
  | ok inst => exact .ok ⟨rfl, rfl, rfl⟩
  | error failure => exact .error rfl

/-- A row is read alike for two hosts. -/
theorem single_alikeBut (first second : String) (row : Value) (details : Fields) :
    AlikeBut first second (single row first details) (single row second details) := by
  have decoded : AlikeBut first second (decode row first) (decode row second) := by
    unfold decode
    cases columns row with
    | ok items => exact decodeColumns_alikeBut first second items
    | error failure => exact .error rfl
  cases row with
  | null => exact .error rfl
  | _ => exact decoded.mapError _

end Row

/-- Two accounts of the same events, whose outcomes differ in the host alone. -/
structure Account.SameBut (first second : String) (account other : Account Instance) : Prop where
  entries : account.entries = other.entries
  outcome : AlikeBut first second account.outcome other.outcome

namespace Account.SameBut

variable {first second : String}

/-- The same failure of both. -/
theorem fail (failure : Failure) :
    SameBut first second { outcome := .error failure } { outcome := .error failure } :=
  ⟨rfl, .error rfl⟩

/-- An event is recorded for both, or refused for both. -/
theorem record
    {outcome other : Except Failure Instance}
    (alike : AlikeBut first second outcome other)
    (event : Event)
    (reporter : Reporter) :
    SameBut first second (.record event reporter outcome) (.record event reporter other) := by
  unfold Account.record
  cases event.record reporter with
  | ok entry => exact ⟨rfl, alike⟩
  | error failure => exact fail failure

end Account.SameBut

namespace Lookup

/-- Lookups that differ in the host conclude alike from the same outcome. -/
theorem conclude_sameBut
    (lookup : Lookup)
    (first second : String)
    (reporter : Reporter)
    (outcome : Except Failure Value) :
    ({ lookup with host := first }.conclude reporter outcome).SameBut first second
      ({ lookup with host := second }.conclude reporter outcome) := by
  cases outcome with
  | error failure =>
      simp only [conclude]
      split
      · exact .record (.error rfl) _ _
      · exact .fail failure
  | ok row =>
      have sameDetails (host : String) : { lookup with host }.details = lookup.details := rfl
      have alike := Row.single_alikeBut first second row lookup.details
      simp only [conclude, sameDetails]
      generalize Row.single row first lookup.details = single at alike ⊢
      generalize Row.single row second lookup.details = otherSingle at alike ⊢
      cases alike with
      | ok same =>
          simp only [same.sameId]
          exact .record (.ok same) _ _
      | @error failure _ same =>
          obtain rfl := same
          simp only
          split
          · exact .record (.error rfl) _ _
          · exact .record (.error rfl) _ _
          · exact .fail failure

end Lookup

/--
Two runs with the same exchanges with the driver, abandoned both or neither, whose accounts
differ in the host alone.
-/
structure Conduct.SameBut (first second : String) (conduct other : Conduct Instance) : Prop where
  exchanges : conduct.exchanges = other.exchanges
  abandoned : conduct.abandoned? = other.abandoned?
  site : conduct.site = other.site
  accounts : Option.Rel (Account.SameBut first second) conduct.account? other.account?

/-- Reads that await the same operation and conclude alike are carried out alike. -/
theorem Read.conduct_sameBut
    {operation : Operation β}
    {conclude concludeToo : Except Failure β -> Account Instance}
    {first second : String}
    (alike : ∀ outcome, (conclude outcome).SameBut first second (concludeToo outcome))
    (context : Context)
    (course : Course)
    (site : Site) :
    ((Read.awaiting operation conclude).conduct context course site).SameBut first second
      ((Read.awaiting operation concludeToo).conduct context course site) := by
  cases fired : context.hasFired course.sent course.now with
  | true =>
      rw [conduct_of_fired fired, conduct_of_fired fired]
      exact ⟨rfl, rfl, rfl, .some (alike _)⟩
  | false =>
      rw [conduct_of_unfired fired, conduct_of_unfired fired]
      refine ⟨rfl, rfl, rfl, ?_⟩
      simp only
      cases Supervision.outcome? (context.reason course.sentLater)
          ((Supervision.start operation site).after course.moments) with
      | none => exact .none
      | some outcome => exact .some (alike outcome)

namespace Repository

/--
Two hosts with the same part before their first colon are resolved alike.  Whatever the driver
answers and whenever the context fires, the driver is sent the same requests, the same events
are recorded, and both reads return instances that differ in the host alone, each having the
one that it was asked for, or end in the same failure.  Stripping a host twice is stripping it
once, and a host without a colon is left as it is.
-/
theorem byHost_ignoresPort
    {part first second : String}
    (ofFirst : IsBeforeColon part first)
    (ofSecond : IsBeforeColon part second)
    (repository : Repository)
    (reporter : Reporter)
    (context : Context)
    (course : Course)
    (site : Site) :
    ((repository.byHost reporter first).conduct context course site).SameBut first second
      ((repository.byHost reporter second).conduct context course site) ∧
    (∀ host, stripPort (stripPort host) = stripPort host) ∧
    (∀ host, ':' ∉ host.toList -> stripPort host = host) := by
  refine ⟨?_, stripPort_stripPort, fun _ => stripPort_of_not_mem⟩
  obtain ⟨statement, compiled⟩ := (Resolution.ofHost first).exists_statement repository.schema
  have sameDraft : (Resolution.ofHost second).draft = (Resolution.ofHost first).draft := by
    rw [Resolution.draft, Resolution.draft, ofFirst.stripPort_eq, ofSecond.stripPort_eq]
  have compiledToo := compiled
  rw [← sameDraft] at compiledToo
  have awaits : repository.byHost reporter first = _ :=
    Resolution.read_eq_awaiting compiled reporter
  have awaitsToo : repository.byHost reporter second = _ :=
    Resolution.read_eq_awaiting compiledToo reporter
  rw [awaits, awaitsToo]
  refine Read.conduct_sameBut (fun outcome => ?_) context course site
  rw [Resolution.lookup, Resolution.lookup, ofFirst.stripPort_eq, ofSecond.stripPort_eq]
  exact Lookup.conclude_sameBut
    { name := "instance_by_host", key := .text part, host := first } first second reporter outcome

/-- A port, and a rest with a colon of its own, are ignored alike. -/
theorem byHost_ignoresPort_ofBinding :
    ∃ account other inst,
      ((byHost {} {} "acme:80").conduct { signal := 0 }
        (.answeredBy (.granting sampleRow) 3) {}).account? = some account ∧
      ((byHost {} {} "acme:443:x").conduct { signal := 0 }
        (.answeredBy (.granting sampleRow) 3) {}).account? = some other ∧
      account.entries = other.entries ∧
      account.outcome = .ok inst ∧ inst.host = "acme:80" ∧
      other.outcome = .ok { inst with host := "acme:443:x" } := by
  have ended : ∃ account inst,
      ((byHost {} {} "acme:80").conduct { signal := 0 }
        (.answeredBy (.granting sampleRow) 3) {}).account? = some account ∧
      account.outcome = .ok inst := ⟨_, _, rfl, rfl⟩
  obtain ⟨account, inst, isAccount, isInstance⟩ := ended
  have ofFirst : IsBeforeColon "acme" "acme:80" := ⟨by decide, .inr ⟨"80".toList, by decide⟩⟩
  have ofSecond : IsBeforeColon "acme" "acme:443:x" :=
    ⟨by decide, .inr ⟨"443:x".toList, by decide⟩⟩
  obtain ⟨same, -, -⟩ := byHost_ignoresPort ofFirst ofSecond {} {} { signal := 0 }
    (.answeredBy (.granting sampleRow) 3) {}
  have accounts := same.accounts
  rw [isAccount] at accounts
  generalize Conduct.account? _ = otherAccount at accounts ⊢
  cases accounts with
  | @some _ other agree =>
      have alike := agree.outcome
      rw [isInstance] at alike
      generalize isOutcome : other.outcome = outcome at alike
      cases alike with
      | ok same =>
          obtain ⟨host, -, rfl⟩ := same
          exact ⟨account, other, inst, isAccount, rfl, agree.entries, isInstance, host, isOutcome⟩

end Repository
end InstanceDirectory
