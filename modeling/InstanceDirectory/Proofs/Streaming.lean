import InstanceDirectory.Proofs.Conduct
import InstanceDirectory.Proofs.Lending
import InstanceDirectory.Repository

/-!
# Streaming searches

A search over the pool borrows a connection, starts a read-only transaction on it, reads
rows, rolls the transaction back and gives the connection back.  Whatever the driver does
and whenever the context fires, the exchanges of a search form a word of a few shapes.  One
shape is missing from the intended ones: a start that fails with a failure that is neither
one of the driver nor an interruption leaves the connection borrowed.
-/

namespace InstanceDirectory

open Operation

/-- The transaction that a notice prepares, and whether it only reads. -/
def Notice.transaction? : Notice -> Option (Connection × Bool)
  | contact (.transaction connection readOnly) => some (connection, readOnly)
  | _ => none

/-- The transactions that a journal tells of. -/
def Site.transactions (site : Site) : List (Connection × Bool) :=
  site.journal.filterMap Notice.transaction?

namespace Act

/-- The transactions that acts prepare. -/
def transactions (acts : List Act) : List (Connection × Bool) :=
  (notices acts).filterMap Notice.transaction?

@[simp] theorem transactions_nil : transactions [] = [] := rfl

@[simp] theorem transactions_exchanged (exchange : Exchange) (acts : List Act) :
    transactions (exchanged exchange :: acts) = transactions acts := rfl

@[simp] theorem transactions_logged (entry : LogEntry) (acts : List Act) :
    transactions (noted (.logged entry) :: acts) = transactions acts := rfl

@[simp] theorem transactions_cursor
    (connection : Connection)
    (statement : Statement)
    (prefetch : Int)
    (acts : List Act) :
    transactions (noted (.contact (.cursor connection statement prefetch)) :: acts) =
      transactions acts := rfl

@[simp] theorem transactions_transaction
    (connection : Connection)
    (readOnly : Bool)
    (acts : List Act) :
    transactions (noted (.contact (.transaction connection readOnly)) :: acts) =
      (connection, readOnly) :: transactions acts := rfl

@[simp] theorem transactions_append (first second : List Act) :
    transactions (first ++ second) = transactions first ++ transactions second := by
  simp [transactions]

@[simp] theorem transactions_ofExchanges (exchanges : List Exchange) :
    transactions (ofExchanges exchanges) = [] := by
  simp [transactions]

end Act

/-- What is no remark prepares no transaction. -/
theorem Notice.transaction?_of_not_isRemark
    {notice : Notice}
    (traced : notice.isRemark = false) :
    notice.transaction? = none := by
  rcases notice with (_ | _ | _ | _ | _) | _ <;> simp_all [transaction?, isRemark]

/-- The transactions among remarks are those among all notices. -/
theorem Notice.filterMap_transaction?_filter (notices : List Notice) :
    (notices.filter isRemark).filterMap transaction? = notices.filterMap transaction? := by
  induction notices with
  | nil => rfl
  | cons notice notices noticesHypothesis =>
      cases remarks : notice.isRemark with
      | true => simp [remarks, List.filterMap_cons, noticesHypothesis]
      | false =>
          simp [remarks, transaction?_of_not_isRemark remarks, noticesHypothesis]

theorem Site.transactions_of_remarks
    {site later : Site}
    {acts : List Act}
    (remarked : later.remarks = site.remarks ++ Act.remarks acts) :
    later.transactions = site.transactions ++ Act.transactions acts := by
  have picked := congrArg (List.filterMap Notice.transaction?) remarked
  simp only [remarks, Act.remarks, List.filterMap_append,
    Notice.filterMap_transaction?_filter] at picked
  exact picked

namespace Exchange

/-- The connection that an exchange borrows. -/
def borrowed? : Exchange -> Option Connection
  | ⟨.acquire, .ok connection⟩ => some connection
  | _ => none

/-- The connection that an exchange gives back, or tries to. -/
def givenBack? : Exchange -> Option Connection
  | ⟨.release connection, _⟩ => some connection
  | _ => none

/-- The transaction that an exchange starts, or tries to, as one that only reads. -/
def started? : Exchange -> Option (Connection × Bool)
  | ⟨.beginTransaction connection, _⟩ => some (connection, true)
  | _ => none

/-- The failure of an exchange that was to start a transaction. -/
def startFailure? : Exchange -> Option Failure
  | ⟨.beginTransaction _, .error failure⟩ => some failure
  | _ => none

/-- What readings of rows are not concerned with is found around them. -/
theorem filterMap_around_reads
    {pick : Exchange -> Option γ}
    (unconcerned : ∀ answer, pick (nextRow answer) = none)
    (before after : List Exchange)
    (answers : List (Except Failure (Option Value))) :
    (before ++ answers.map nextRow ++ after).filterMap pick =
      before.filterMap pick ++ after.filterMap pick := by
  have none : (answers.map nextRow).filterMap pick = [] := by
    induction answers with
    | nil => rfl
    | cons answer answers answersHypothesis => simp [unconcerned, answersHypothesis]
  rw [List.filterMap_append, List.filterMap_append, none, List.append_nil]

/-- The intended words of exchanges of a search over the pool. -/
inductive Lifecycle : List Exchange -> Prop where
  | untouched : Lifecycle []
  | unborrowed (failure : Failure) : Lifecycle [⟨.acquire, .error failure⟩]
  | unstarted (connection : Connection) (failure : Failure) (returned : Except Failure Unit) :
      Lifecycle [⟨.acquire, .ok connection⟩, ⟨.beginTransaction connection, .error failure⟩,
        ⟨.release connection, returned⟩]
  | streamed (connection : Connection) (answers : List (Except Failure (Option Value)))
      (rolledBack returned : Except Failure Unit) :
      Lifecycle ([⟨.acquire, .ok connection⟩, ⟨.beginTransaction connection, .ok ()⟩] ++
        answers.map nextRow ++
        [⟨.rollback connection, rolledBack⟩, ⟨.release connection, returned⟩])

/-- The word of exchanges that leaves its connection borrowed. -/
inductive Stranded : List Exchange -> Prop where
  | started (connection : Connection) (failure : Failure) :
      (failure.isDriver || failure.isInterruption) = false ->
      Stranded [⟨.acquire, .ok connection⟩, ⟨.beginTransaction connection, .error failure⟩]

/--
Transactions fail to start only with failures that the executor expects: those of the
driver, and interruptions.
-/
def StartsTamely (exchanges : List Exchange) : Prop :=
  ∀ failure ∈ exchanges.filterMap startFailure?, failure.isDriver || failure.isInterruption

theorem startsTamely_streamed
    (connection : Connection)
    (answers : List (Except Failure (Option Value)))
    (rolledBack returned : Except Failure Unit) :
    StartsTamely ([⟨.acquire, .ok connection⟩, ⟨.beginTransaction connection, .ok ()⟩] ++
      answers.map nextRow ++
      [⟨.rollback connection, rolledBack⟩, ⟨.release connection, returned⟩]) := by
  intro failure isFound
  rw [filterMap_around_reads fun _ => rfl] at isFound
  cases isFound

/-- An intended word gives back what it borrowed, each connection once. -/
theorem Lifecycle.givenBack_eq_borrowed
    {exchanges : List Exchange}
    (lifecycle : Lifecycle exchanges) :
    exchanges.filterMap givenBack? = exchanges.filterMap borrowed? := by
  cases lifecycle with
  | untouched => rfl
  | unborrowed failure => rfl
  | unstarted connection failure returned => rfl
  | streamed connection answers rolledBack returned =>
      rw [filterMap_around_reads fun _ => rfl, filterMap_around_reads fun _ => rfl]
      rfl

/-- A stranded word gives nothing back. -/
theorem Stranded.givenBack_ne_borrowed
    {exchanges : List Exchange}
    (stranded : Stranded exchanges) :
    exchanges.filterMap givenBack? ≠ exchanges.filterMap borrowed? := by
  cases stranded with
  | started connection failure _ => exact (List.cons_ne_nil connection []).symm

theorem Stranded.not_startsTamely
    {exchanges : List Exchange}
    (stranded : Stranded exchanges) :
    ¬ StartsTamely exchanges := by
  cases stranded with
  | started connection failure unexpected =>
      intro tame
      have expected := tame failure (List.mem_singleton.mpr rfl)
      rw [unexpected] at expected
      exact Bool.false_ne_true expected

/-- A word that leaves its connection borrowed is not intended. -/
theorem Stranded.not_lifecycle
    {exchanges : List Exchange}
    (stranded : Stranded exchanges) :
    ¬ Lifecycle exchanges :=
  fun lifecycle => stranded.givenBack_ne_borrowed lifecycle.givenBack_eq_borrowed

/-- Of an intended word that starts tamely and a stranded one, only the former is intended. -/
theorem lifecycle_iff_startsTamely
    {exchanges : List Exchange}
    (shape : Lifecycle exchanges ∧ StartsTamely exchanges ∨ Stranded exchanges) :
    (Lifecycle exchanges ↔ StartsTamely exchanges) ∧
    (exchanges.filterMap givenBack? = exchanges.filterMap borrowed? ↔
      StartsTamely exchanges) ∧
    (¬ StartsTamely exchanges -> Stranded exchanges) := by
  rcases shape with ⟨lifecycle, tame⟩ | stranded
  · exact ⟨iff_of_true lifecycle tame, iff_of_true lifecycle.givenBack_eq_borrowed tame,
      fun untamed => absurd tame untamed⟩
  · exact ⟨iff_of_false stranded.not_lifecycle stranded.not_startsTamely,
      iff_of_false stranded.givenBack_ne_borrowed stranded.not_startsTamely, fun _ => stranded⟩

end Exchange

open Exchange

@[simp] theorem Act.transactions_recordFailure
    (event : Failure -> PoolEvent)
    (failure : Failure) :
    Act.transactions (Pool.recordFailure event failure) = [] := by
  unfold Pool.recordFailure
  split <;> rfl

@[simp] theorem Act.transactions_recordAnswer
    (done : PoolEvent)
    (failed : Failure -> PoolEvent)
    (answer : Except Failure α) :
    Act.transactions (Pool.recordAnswer done failed answer) = [] := by
  cases answer with
  | ok answer => rfl
  | error failure => exact Act.transactions_recordFailure failed failure

/-- A scan over a connection reads rows, ends the transaction and gives the connection back. -/
theorem Scan.ends_run_pooled
    {connection : Connection}
    {statement : Statement}
    {prefetch : Int}
    {details : Fields}
    {acts : List Act}
    {outcome : Except Failure Page}
    {left : Bool}
    (ends : Ends true (Scan.run (.pooled connection statement prefetch) details) acts
      outcome left) :
    Act.transactions acts = [] ∧
    ∃ (answers : List (Except Failure (Option Value))) (rolledBack returned : Except Failure Unit),
      Act.exchanges acts = answers.map nextRow ++
        [⟨.rollback connection, rolledBack⟩, ⟨.release connection, returned⟩] := by
  obtain ⟨reading, closing, read, closed, between, rfl, readEnds, closeEnds, -⟩ :=
    Scan.ends_run ends
  obtain ⟨rfl, answers, ending, rfl, -, -⟩ := Cursor.ends_read_pooled readEnds
  obtain ⟨-, rolledBack, returned, rfl, -⟩ := Cursor.ends_close_pooled closeEnds
  exact ⟨by simp, answers, rolledBack, returned, by simp⟩

/--
The acts of a search over an open pool: their exchanges form an intended word, unless a
transaction fails to start with an unexpected failure and strands its connection.
-/
structure Act.Searches (acts : List Act) : Prop where
  /-- Something is exchanged. -/
  touched : Act.exchanges acts ≠ []
  /-- The transactions that are prepared, to read only, are those that are started. -/
  prepared : Act.transactions acts = (Act.exchanges acts).filterMap started?
  /-- The word of the exchanges. -/
  word : Lifecycle (Act.exchanges acts) ∧ StartsTamely (Act.exchanges acts) ∨
    Stranded (Act.exchanges acts)

/-- Opening rows over an open pool starts a transaction, or is all that a search does. -/
theorem Executor.ends_openRows_pooled
    {prefetch : Int}
    {statement : Statement}
    {acts : List Act}
    {outcome : Except Failure Cursor}
    {left : Bool}
    (ends : Ends true ((Executor.pooled prefetch).openRows statement) acts outcome left) :
    (∃ connection, left = true ∧ outcome = .ok (.pooled connection statement prefetch) ∧
      Act.exchanges acts = [⟨.acquire, .ok connection⟩, ⟨.beginTransaction connection, .ok ()⟩] ∧
      Act.transactions acts = [(connection, true)]) ∨
    (∃ failure, outcome = .error failure) ∧ Act.Searches acts := by
  rcases ends_acquire_andThen ends with
    ⟨-, failure, rfl, rfl⟩ | ⟨connection, rest, rfl, starting⟩
  · have word : Act.exchanges (.exchanged ⟨.acquire, .error failure⟩ ::
        Pool.recordFailure .acquireFailed failure) = [⟨.acquire, .error failure⟩] := by
      simp
    refine .inr ⟨⟨_, rfl⟩, ?_, ?_, ?_⟩
    · rw [word]
      exact List.cons_ne_nil _ _
    · rw [word, Act.transactions_exchanged, Act.transactions_recordFailure]
      rfl
    · rw [word]
      exact .inl ⟨.unborrowed failure, nofun⟩
  · obtain ⟨rfl, failure | _, rest, rfl, ending⟩ := ends_startTransaction starting
    · obtain ⟨⟨final, rfl⟩, ending⟩ := ending
      refine .inr ⟨⟨final, rfl⟩, ?_⟩
      cases expected : failure.isDriver || failure.isInterruption with
      | true =>
          simp only [expected, if_true] at ending
          obtain ⟨returned, rfl⟩ := ending
          have word : Act.exchanges (.exchanged ⟨.acquire, .ok connection⟩ ::
              .noted (.logged PoolEvent.acquired.entry) ::
              .noted (.contact (.transaction connection true)) ::
              .exchanged ⟨.beginTransaction connection, .error failure⟩ ::
              .exchanged ⟨.release connection, returned⟩ ::
              Pool.recordAnswer .returned .returnFailed returned) =
            [⟨.acquire, .ok connection⟩, ⟨.beginTransaction connection, .error failure⟩,
              ⟨.release connection, returned⟩] := by
            simp
          refine ⟨?_, ?_, ?_⟩
          · rw [word]
            exact List.cons_ne_nil _ _
          · rw [word]
            simp only [Act.transactions_exchanged, Act.transactions_logged,
              Act.transactions_transaction, Act.transactions_recordAnswer]
            rfl
          · rw [word]
            refine .inl ⟨.unstarted connection failure returned, ?_⟩
            intro found isFound
            obtain rfl : found = failure := List.mem_singleton.mp isFound
            exact expected
      | false =>
          simp only [expected, Bool.false_eq_true, if_false] at ending
          subst ending
          exact ⟨List.cons_ne_nil _ _, rfl, .inr (.started connection failure expected)⟩
    · obtain ⟨rfl, rfl⟩ := ending
      exact .inl ⟨connection, rfl, rfl, rfl, rfl⟩

/-- The acts of a search over an open pool are those of a search. -/
theorem Repository.ends_searchOperation_pooled
    {repository : Repository}
    {prefetch : Int}
    {statement : Statement}
    {acts : List Act}
    {outcome : Except Failure Page}
    {left : Bool}
    (pooled : repository.executor = .pooled prefetch)
    (ends : Ends true (repository.searchOperation statement) acts outcome left) :
    Act.Searches acts := by
  unfold searchOperation at ends
  rw [pooled] at ends
  rcases ends_andThen_iff.mp ends with
    ⟨failure, opening, -⟩ | ⟨before, after, cursor, between, rfl, opening, scanning⟩
  · rcases Executor.ends_openRows_pooled opening with ⟨_, -, opened, -⟩ | ⟨-, searches⟩
    · cases opened
    · exact searches
  · rcases Executor.ends_openRows_pooled opening with
      ⟨connection, rfl, opened, began, prepared⟩ | ⟨⟨failure, failed⟩, -⟩
    · cases opened
      obtain ⟨noTransaction, answers, rolledBack, returned, word⟩ :=
        Scan.ends_run_pooled scanning
      have whole : Act.exchanges (before ++ after) =
          [⟨.acquire, .ok connection⟩, ⟨.beginTransaction connection, .ok ()⟩] ++
            answers.map nextRow ++
            [⟨.rollback connection, rolledBack⟩, ⟨.release connection, returned⟩] := by
        rw [Act.exchanges_append, began, word, List.append_assoc]
      refine ⟨?_, ?_, ?_⟩
      · rw [whole]
        exact List.cons_ne_nil _ _
      · have unconcerned : ∀ answer, started? (nextRow answer) = none := fun _ => rfl
        rw [whole, filterMap_around_reads unconcerned, Act.transactions_append, prepared,
          noTransaction]
        rfl
      · rw [whole]
        exact .inl ⟨.streamed _ _ _ _,
          startsTamely_streamed connection answers rolledBack returned⟩
    · cases failed

/--
The exchanges of a search that has ended form an intended word exactly when no transaction
failed to start with an unexpected failure, and exactly then every borrowed connection was
given back, once.  Nothing was exchanged exactly when the search was rejected or its context
had fired before it, and every transaction that was started was prepared to read only.
-/
theorem Repository.search_lifecycle_iff
    {repository : Repository}
    {prefetch : Int}
    {reporter : Reporter}
    {search : Search}
    {context : Context}
    {course : Course}
    {site : Site}
    {account : Account Page}
    (pooled : repository.executor = .pooled prefetch)
    (opened : site.isOpen)
    (ended : ((repository.search reporter search).conduct context course site).account? =
      some account) :
    let conduct := (repository.search reporter search).conduct context course site
    (Lifecycle conduct.exchanges ↔ StartsTamely conduct.exchanges) ∧
    (conduct.exchanges.filterMap givenBack? = conduct.exchanges.filterMap borrowed? ↔
      StartsTamely conduct.exchanges) ∧
    (¬ StartsTamely conduct.exchanges -> Stranded conduct.exchanges) ∧
    (conduct.exchanges = [] ↔
      (∃ rejection, repository.search reporter search = .settled rejection) ∨
        context.hasFired course.sent course.now) ∧
    conduct.site.transactions =
      site.transactions ++ conduct.exchanges.filterMap started? := by
  intro conduct
  suffices shape : (Lifecycle conduct.exchanges ∧ StartsTamely conduct.exchanges ∨
      Stranded conduct.exchanges) ∧
      (conduct.exchanges = [] ↔
        (∃ rejection, repository.search reporter search = .settled rejection) ∨
          context.hasFired course.sent course.now) ∧
      conduct.site.transactions =
        site.transactions ++ conduct.exchanges.filterMap started? by
    obtain ⟨word, rest⟩ := shape
    obtain ⟨lifecycle, returned, stranded⟩ := lifecycle_iff_startsTamely word
    exact ⟨lifecycle, returned, stranded, rest⟩
  rcases compileThen_cases repository searchName reporter (searchDraft search) _ with
    ⟨rejection, settled⟩ | ⟨statement, -, awaiting⟩
  · have same : conduct = (Read.settled rejection).conduct context course site :=
      congrArg (Read.conduct · context course site) settled
    rw [same]
    exact ⟨.inl ⟨.untouched, nofun⟩, iff_of_true rfl (.inl ⟨rejection, settled⟩),
      (List.append_nil _).symm⟩
  · have same : conduct = (Read.awaiting (repository.searchOperation statement)
        (concludeSearch reporter)).conduct context course site :=
      congrArg (Read.conduct · context course site) awaiting
    cases fired : context.hasFired course.sent course.now with
    | true =>
        rw [same, Read.conduct_of_fired fired]
        exact ⟨.inl ⟨.untouched, nofun⟩, iff_of_true rfl (.inr rfl), (List.append_nil _).symm⟩
    | false =>
        have accounted : conduct.account? = some account := ended
        rw [same] at accounted
        obtain ⟨acts, outcome, ends, exchanged, remarked, -⟩ :=
          Read.ends_of_account? fired accounted
        rw [opened] at ends
        obtain ⟨touched, prepared, word⟩ := ends_searchOperation_pooled pooled ends
        rw [exchanged] at touched prepared word
        rw [same]
        refine ⟨word, iff_of_false touched ?_, ?_⟩
        · rintro (⟨rejection, settled⟩ | fires)
          · have impossible := awaiting.symm.trans settled
            cases impossible
          · exact Bool.false_ne_true fires
        · rw [Site.transactions_of_remarks remarked, prepared]

/-- A driver that grants a connection and then raises a failure that is not its own. -/
def Answerer.refusingStart : Answerer
  | .beginTransaction _ => .error { kind := .other "RuntimeError", message := "refused" }
  | request => granting .null request

/-- A search for everything over an open pool, with the same driver throughout. -/
def Repository.searchAnsweredBy (answerer : Answerer) : Conduct Page :=
  (search { executor := .pooled 100 } {} {}).conduct { signal := 0 }
    (.answeredBy answerer 5) { isOpen := true }

/-- A search that finds nothing gives its connection back. -/
theorem Repository.lifecycle_of_granting :
    Lifecycle (searchAnsweredBy (.granting .null)).exchanges := by
  have ended : (searchAnsweredBy (.granting .null)).account? = some _ := rfl
  refine (search_lifecycle_iff rfl rfl ended).1.mpr ?_
  intro failure isFound
  cases isFound

/-- A search whose transaction is refused keeps its connection. -/
theorem Repository.not_lifecycle_of_refusingStart :
    ¬ Lifecycle (searchAnsweredBy .refusingStart).exchanges := by
  have word : (searchAnsweredBy .refusingStart).exchanges =
      [⟨.acquire, .ok 1⟩, ⟨.beginTransaction 1,
        .error { kind := .other "RuntimeError", message := "refused" }⟩] := rfl
  rw [word]
  exact (Stranded.started 1 _ rfl).not_lifecycle

end InstanceDirectory
