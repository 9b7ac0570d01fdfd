import InstanceDirectory.Proofs.Resolution
import InstanceDirectory.Proofs.Selecting

/-!
# Hosts and the instances bound to them

A host is resolved by the part before its first colon.  When the store answers the statement
of a resolution with a row that standard SQL selects for its draft, the instance returned is
one that the domain table binds that part to, and the lookup fails exactly when no binding of
that part leads to an instance: the row that an outer join extends with nulls is never taken.
-/

namespace InstanceDirectory

open Operation

/-- A text is the part of a host before its first colon, or all of a host without one. -/
def IsBeforeColon (part host : String) : Prop :=
  ':' ∉ part.toList ∧
    (host.toList = part.toList ∨ ∃ rest, host.toList = part.toList ++ ':' :: rest)

theorem isBeforeColon_stripPort (host : String) : IsBeforeColon (stripPort host) host := by
  have parts : host.toList.takeWhile (· != ':') ++ host.toList.dropWhile (· != ':') =
      host.toList := List.takeWhile_append_dropWhile
  have before : (stripPort host).toList = host.toList.takeWhile (· != ':') := by
    simp [stripPort]
  refine ⟨?_, ?_⟩
  · rw [before]
    intro present
    have differs := List.all_eq_true.mp List.all_takeWhile _ present
    simp at differs
  · rw [before]
    cases rest : host.toList.dropWhile (· != ':') with
    | nil =>
        rw [rest, List.append_nil] at parts
        exact .inl parts.symm
    | cons first later =>
        have stops := List.head?_dropWhile_not (· != ':') host.toList
        rw [rest] at stops parts
        have isColon : first = ':' := by simpa using stops
        subst isColon
        exact .inr ⟨later, parts.symm⟩

namespace Database

/-- The domain table binds a text to the identity of an instance that exists. -/
def Binds (database : Database) (key id : String) : Prop :=
  ∃ row ∈ database.instances, ∃ domain ∈ database.domains,
    domain .boundDomain = .text key ∧ domain .boundInstanceId = .text id ∧ row .id = .text id

/-- The store answers a select with one of the rows of its result, or with null without any. -/
def Answers (database : Database) (draft : Draft) (answer : Value) : Prop :=
  ∃ rows, draft.result? database = some rows ∧
    (rows = [] ∧ answer = .null ∨ ∃ row ∈ rows, answer = .list row)

end Database

/-- The select of instances beside their domains under the one condition on the domain. -/
def Repository.hostSelect (key : String) : Draft where
  selection := .byDomain
  conditions := [.equals .boundDomain (.text key)]

/-- The draft of a resolution builds, and it is that select. -/
theorem Repository.hostDraft_eq (key : String) : hostDraft key = .ok (hostSelect key) := rfl

/-- A row is selected for a host exactly when it pairs an instance with a binding of it. -/
theorem Repository.mem_selected_hostSelect (database : Database) (key : String) :
    ∃ rows, (hostSelect key).selected? database = some rows ∧ ∀ row, row ∈ rows ↔
      ∃ kept ∈ database.instances, ∃ domain ∈ database.domains,
        row = .beside .instances kept domain ∧ domain .boundDomain = .text key ∧
        ∃ id, domain .boundInstanceId = .text id ∧ kept .id = .text id := by
  refine ⟨(Piece.leftOuterJoin database .instances .domains fun row =>
      Value.sameText? (row .boundInstanceId) (row .id)).filter fun row =>
        [fun row : Assignment => Value.sameText? (row .boundDomain) (.text key)].all
          fun condition => condition row == some true, rfl, fun row => ?_⟩
  simp only [List.mem_filter, Piece.mem_leftOuterJoin, List.all_cons, List.all_nil,
    Bool.and_true, beq_iff_eq, Value.sameText?_eq_true]
  constructor
  · rintro ⟨⟨kept, isInstance, ⟨domain, isDomain, rfl, id, boundId, sameId⟩ | ⟨-, rfl⟩⟩,
      content, bound, same⟩
    · cases same
      exact ⟨kept, isInstance, domain, isDomain, rfl, bound, id, boundId, sameId⟩
    -- The extended row holds null where the condition asks for the text.
    · cases bound
  · rintro ⟨kept, isInstance, domain, isDomain, rfl, bound, id, boundId, sameId⟩
    exact ⟨⟨kept, isInstance, .inl ⟨domain, isDomain, rfl, id, boundId, sameId⟩⟩,
      key, bound, rfl⟩

/-- What the statement of a host selects: nothing without a binding, and else bound rows. -/
theorem Repository.result_hostSelect (database : Database) (key : String) :
    ∃ rows, (hostSelect key).result? database = some rows ∧
      (rows = [] ↔ ∀ id, ¬ database.Binds key id) ∧
      ∀ row ∈ rows, ∃ kept ∈ database.instances, row = Column.projection.map kept ∧
        ∃ id, kept .id = .text id ∧ database.Binds key id := by
  obtain ⟨selected, isSelected, mem⟩ := mem_selected_hostSelect database key
  have result : (hostSelect key).result? database =
      some (selected.map fun row => Column.projection.map row) := by
    unfold Draft.result?
    rw [isSelected]
    rfl
  refine ⟨_, result, ?_, ?_⟩
  · rw [List.map_eq_nil_iff, List.eq_nil_iff_forall_not_mem]
    constructor
    · rintro none id ⟨kept, isInstance, domain, isDomain, bound, boundId, sameId⟩
      exact none _ ((mem _).mpr
        ⟨kept, isInstance, domain, isDomain, rfl, bound, id, boundId, sameId⟩)
    · intro none row present
      obtain ⟨kept, isInstance, domain, isDomain, -, bound, id, boundId, sameId⟩ :=
        (mem row).mp present
      exact none id ⟨kept, isInstance, domain, isDomain, bound, boundId, sameId⟩
  · intro row present
    obtain ⟨joined, isJoined, rfl⟩ := List.mem_map.mp present
    obtain ⟨kept, isInstance, domain, isDomain, rfl, bound, id, boundId, sameId⟩ :=
      (mem joined).mp isJoined
    exact ⟨kept, isInstance, rfl, id, sameId,
      kept, isInstance, domain, isDomain, bound, boundId, sameId⟩

/--
A driver that lends and takes back connections, and answers a statement as the store does
that reads it as the given select.
-/
structure Answerer.IsFaithful
    (answerer : Answerer) (database : Database) (draft : Draft) (statement : Statement) :
    Prop where
  /-- A connection is lent. -/
  lends : ∃ connection, answerer .acquire = .ok connection
  /-- Every connection is taken back. -/
  takesBack : ∀ connection, answerer (.release connection) = .ok ()
  /-- The statement is answered from the contents of the tables. -/
  answers : ∀ connection, ∃ answer,
    answerer (.fetchRow connection statement) = .ok answer ∧ database.Answers draft answer

/-- Over a faithful driver, reading a row ends in an answer of the store. -/
theorem Executor.outcome_of_faithful
    {executor : Executor}
    {database : Database}
    {draft : Draft}
    {statement : Statement}
    {isOpen left : Bool}
    {acts : List Act}
    {outcome : Except Failure Value}
    (usable : executor = .direct ∨ isOpen)
    (ends : Ends isOpen (executor.fetchRow statement) acts outcome left)
    (faithful : ∀ exchange ∈ Act.exchanges acts, ∃ answerer : Answerer,
      answerer.IsFaithful database draft statement ∧
        exchange.answer = answerer exchange.request) :
    ∃ answer, outcome = .ok answer ∧ database.Answers draft answer := by
  cases executor with
  | direct =>
      obtain ⟨fetched, rest, rfl, done⟩ := ends_call_iff.mp ends
      obtain ⟨rfl, rfl, rfl⟩ := ends_done_iff.mp done
      obtain ⟨answerer, isFaithful, same⟩ := faithful ⟨.fetchRow none statement, outcome⟩ (by simp)
      obtain ⟨answer, given, answers⟩ := isFaithful.answers none
      exact ⟨answer, same.trans given, answers⟩
  | pooled prefetch =>
      have opened : isOpen = true := usable.resolve_left nofun
      rw [opened] at ends
      obtain ⟨-, ⟨failure, rfl, rfl⟩ | ⟨connection, fetched, returned, rfl, rfl⟩⟩ :=
        ends_fetchRowPooled ends
      · obtain ⟨answerer, isFaithful, same⟩ := faithful ⟨.acquire, .error failure⟩ (by simp)
        obtain ⟨lent, lends⟩ := isFaithful.lends
        cases same.trans lends
      · obtain ⟨giver, giverFaithful, sameFetched⟩ :=
          faithful ⟨.fetchRow (some connection) statement, fetched⟩ (by simp)
        obtain ⟨taker, takerFaithful, sameReturned⟩ :=
          faithful ⟨.release connection, returned⟩ (by simp)
        obtain ⟨answer, given, answers⟩ := giverFaithful.answers (some connection)
        obtain rfl : fetched = .ok answer := sameFetched.trans given
        obtain rfl : returned = .ok () :=
          sameReturned.trans (takerFaithful.takesBack connection)
        exact ⟨answer, rfl, answers⟩

/--
An answer of the store to the statement of a host is null when nothing is bound to the host,
and else a row of a bound instance.
-/
theorem Repository.answers_hostSelect
    {database : Database}
    {key : String}
    {answer : Value}
    (answers : database.Answers (hostSelect key) answer) :
    (answer = .null ∧ ∀ id, ¬ database.Binds key id) ∨
    ∃ kept ∈ database.instances, answer = .list (Column.projection.map kept) ∧
      ∃ id, kept .id = .text id ∧ database.Binds key id := by
  obtain ⟨rows, result, empty, bound⟩ := result_hostSelect database key
  obtain ⟨found, alsoResult, answered⟩ := answers
  obtain rfl : rows = found := Option.some.inj (result.symm.trans alsoResult)
  rcases answered with ⟨none, rfl⟩ | ⟨row, present, rfl⟩
  · exact .inl ⟨rfl, empty.mp none⟩
  · obtain ⟨kept, isInstance, rfl, id, sameId, binds⟩ := bound row present
    exact .inr ⟨kept, isInstance, rfl, id, sameId, binds⟩

/--
What a lookup of a host makes of an answer of the store: an instance that is bound to the
host, or a failed lookup when there is none.
-/
theorem Repository.isolated_of_answers
    {database : Database}
    {host : String}
    {answer : Value}
    (answers : database.Answers (hostSelect (stripPort host)) answer)
    (decodable : ∀ row ∈ database.instances, ∃ inst,
      Row.decode (.list (Column.projection.map row)) host = .ok inst)
    (reporter : Reporter) :
    let lookup := (Resolution.ofHost host).lookup
    let account := lookup.conclude reporter (.ok answer)
    (∀ inst, account.outcome = .ok inst -> database.Binds (stripPort host) inst.id) ∧
    (reporter.IsUnobtrusive ->
      (account.outcome = .error (.notFound lookup.details) ↔
        ∀ id, ¬ database.Binds (stripPort host) id) ∧
      ((∃ id, database.Binds (stripPort host) id) -> ∃ inst, account.outcome = .ok inst)) := by
  intro lookup account
  rcases answers_hostSelect answers with
    ⟨rfl, unbound⟩ | ⟨kept, isInstance, rfl, id, sameId, binds⟩
  · refine ⟨fun inst returned => ?_, fun unobtrusive => ⟨?_, ?_⟩⟩
    · cases Lookup.single_of_outcome_conclude returned
    · exact iff_of_true (Lookup.outcome_conclude_ok unobtrusive _ _) unbound
    · rintro ⟨id, binds⟩
      exact absurd binds (unbound id)
  · obtain ⟨inst, decoded⟩ := decodable kept isInstance
    have sole : Row.single (.list (Column.projection.map kept)) lookup.host lookup.details =
        .ok inst := by
      have decodes : Row.decode (.list (Column.projection.map kept)) lookup.host = .ok inst :=
        decoded
      simp only [Row.single, decodes]
      rfl
    refine ⟨fun other returned => ?_, fun unobtrusive => ?_⟩
    · have same := sole.symm.trans (Lookup.single_of_outcome_conclude returned)
      cases same
      have isId : kept .id = .text inst.id := Row.id_of_decode_list decoded
      rw [sameId] at isId
      cases isId
      exact binds
    · have returned := (Lookup.outcome_conclude_ok unobtrusive _ _).trans sole
      refine ⟨iff_of_false ?_ fun unbound => unbound id binds, fun _ => ⟨inst, returned⟩⟩
      intro missed
      cases returned.symm.trans missed

/--
A host is resolved to an instance only when the domain table binds the part of the host
before its first colon to that instance, provided that the store answers the statement from
its tables as it reads the draft that the resolution compiles.  Unless the context fires, the
lookup fails exactly when no binding of that part leads to an instance, and ends in an
instance otherwise.
-/
theorem Repository.byHost_isolated
    {repository : Repository}
    {reporter : Reporter}
    {host : String}
    {context : Context}
    {course : Course}
    {site : Site}
    {database : Database}
    (usable : repository.executor = .direct ∨ site.isOpen)
    (decodable : ∀ row ∈ database.instances, ∃ inst,
      Row.decode (.list (Column.projection.map row)) host = .ok inst) :
    IsBeforeColon (stripPort host) host ∧
    ∃ draft statement, hostDraft (stripPort host) = .ok draft ∧
      draft.compile repository.schema = .ok statement ∧
      ((∀ answerer, .answered answerer ∈ course.moments ->
        answerer.IsFaithful database draft statement) ->
      let conduct := (repository.byHost reporter host).conduct context course site
      (3 ≤ Moment.answers course.moments -> ∃ account, conduct.account? = some account) ∧
      ∀ account, conduct.account? = some account ->
        (∀ inst, account.outcome = .ok inst -> database.Binds (stripPort host) inst.id) ∧
        (reporter.IsUnobtrusive -> conduct.abandoned? = none ->
          (account.outcome = .error (.notFound (Resolution.ofHost host).lookup.details) ↔
            ∀ id, ¬ database.Binds (stripPort host) id) ∧
          ((∃ id, database.Binds (stripPort host) id) -> ∃ inst, account.outcome = .ok inst))) := by
  refine ⟨isBeforeColon_stripPort host, hostSelect (stripPort host), ?_⟩
  have drafted : (Resolution.ofHost host).draft = .ok (hostSelect (stripPort host)) :=
    hostDraft_eq (stripPort host)
  obtain ⟨statement, compiled⟩ :=
    (Resolution.ofHost host).exists_statement repository.schema
  have written : (hostSelect (stripPort host)).compile repository.schema = .ok statement := by
    rw [drafted] at compiled
    exact compiled
  refine ⟨statement, drafted, written, fun faithful => ?_⟩
  have awaits : repository.byHost reporter host =
      .awaiting (repository.executor.fetchRow statement)
        ((Resolution.ofHost host).lookup.conclude reporter) :=
    Resolution.read_eq_awaiting compiled reporter
  rw [awaits]
  intro conduct
  refine ⟨Read.exists_account (repository.executor.fetchRow_endsWithin statement),
    fun account ended => ?_⟩
  rcases Read.account_cases ended with
    ⟨reason, abandoned, -, rfl⟩ | ⟨-, acts, outcome, ends, exchanged, rfl, answered⟩
  · refine ⟨fun inst returned =>
      absurd returned (Lookup.outcome_conclude_error_ne_ok _ _ inst), fun _ unabandoned => ?_⟩
    cases abandoned.symm.trans unabandoned
  · have fromStore : ∀ exchange ∈ Act.exchanges acts, ∃ answerer : Answerer,
        answerer.IsFaithful database (hostSelect (stripPort host)) statement ∧
          exchange.answer = answerer exchange.request := by
      rw [exchanged]
      intro exchange happened
      obtain ⟨answerer, gives, same⟩ := answered exchange happened
      exact ⟨answerer, faithful answerer gives, same⟩
    obtain ⟨answer, rfl, answers⟩ := Executor.outcome_of_faithful usable ends fromStore
    obtain ⟨binds, settles⟩ := isolated_of_answers answers decodable reporter
    exact ⟨binds, fun unobtrusive _ => settles unobtrusive⟩

/-- The row of an instance with little more than an identity. -/
def plainInstance (id : String) : Assignment
  | .id => .text id
  | .creationDate => .timestamp default
  | .changeDate => .timestamp default
  | .sequence => .int 1
  | _ => .null

/-- The binding of a text to an identity. -/
def binding (domain id : Value) : Assignment
  | .boundDomain => domain
  | .boundInstanceId => id
  | _ => .null

/-- One bound instance, one that no domain is bound to, and bindings that lead nowhere. -/
def sampleDatabase : Database where
  instances := [plainInstance "i", plainInstance "j"]
  domains := [binding (.text "acme") (.text "gone"), binding (.text "acme") .null,
    binding (.text "acme") (.text "i"), binding .null (.text "j")]

/-- The row that the store answers for the bound instance. -/
def sampleRow : Value :=
  .list (Column.projection.map (plainInstance "i"))

/-- A host with a port is resolved to the instance that its name is bound to. -/
theorem Repository.byHost_isolated_of_binding :
    ∃ account,
      ((byHost {} {} "acme:80").conduct { signal := 0 }
        (.answeredBy (.granting sampleRow) 3) {}).account? = some account ∧
      ∃ inst, account.outcome = .ok inst ∧ sampleDatabase.Binds "acme" inst.id := by
  have decodable : ∀ row ∈ sampleDatabase.instances, ∃ inst,
      Row.decode (.list (Column.projection.map row)) "acme:80" = .ok inst := by
    intro row present
    simp only [sampleDatabase, List.mem_cons, List.not_mem_nil, or_false] at present
    rcases present with rfl | rfl <;> exact ⟨_, rfl⟩
  have key : stripPort "acme:80" = "acme" := by decide
  obtain ⟨-, draft, statement, drafted, -, isolated⟩ :=
    @byHost_isolated {} {} "acme:80" { signal := 0 } (.answeredBy (.granting sampleRow) 3) {}
      sampleDatabase (.inl rfl) decodable
  rw [key] at drafted isolated
  obtain rfl : hostSelect "acme" = draft := Except.ok.inj ((hostDraft_eq "acme").symm.trans drafted)
  have faithful : (Answerer.granting sampleRow).IsFaithful sampleDatabase (hostSelect "acme")
      statement :=
    { lends := ⟨1, rfl⟩
      takesBack := fun _ => rfl
      answers := fun _ => ⟨sampleRow, rfl, _, rfl, .inr ⟨_, List.mem_cons_self, rfl⟩⟩ }
  obtain ⟨ends, settled⟩ := isolated (by
    intro answerer answered
    cases List.eq_of_mem_replicate answered
    exact faithful)
  obtain ⟨account, ended⟩ := ends (by decide)
  obtain ⟨binds, resolves⟩ := settled account ended
  have bound : sampleDatabase.Binds "acme" "i" :=
    ⟨_, List.mem_cons_self, binding (.text "acme") (.text "i"), by simp [sampleDatabase],
      rfl, rfl, rfl⟩
  obtain ⟨inst, returned⟩ := (resolves nofun rfl).2 ⟨"i", bound⟩
  exact ⟨account, ended, inst, returned, binds inst returned⟩

end InstanceDirectory
