import InstanceDirectory.Operation

/-!
# Endings of operations

An operation notes things and exchanges requests for answers until it ends.  The relation
below says which acts can lead an operation to which outcome, whatever the driver answers.
It follows the constructors of operations, so the acts of an operation that goes on after
another one are the acts of the two, one after the other.
-/

namespace InstanceDirectory

/-- A request together with the answer that ended it. -/
structure Exchange where
  /-- What was asked. -/
  request : Request
  /-- How the request ended. -/
  answer : Except Failure request.Reply

/-- Asking for the next row, with its answer. -/
def Exchange.nextRow (answer : Except Failure (Option Value)) : Exchange :=
  ⟨.nextRow, answer⟩

/-- What an operation does on the way to its end. -/
inductive Act where
  | noted (notice : Notice)
  | exchanged (exchange : Exchange)

namespace Act

/-- The exchange that an act is. -/
def exchange? : Act -> Option Exchange
  | noted _ => none
  | exchanged exchange => some exchange

/-- The notice that an act writes. -/
def notice? : Act -> Option Notice
  | noted notice => some notice
  | exchanged _ => none

/-- The exchanges among acts, in order. -/
def exchanges (acts : List Act) : List Exchange :=
  acts.filterMap exchange?

/-- The acts that are the given exchanges. -/
def ofExchanges (exchanges : List Exchange) : List Act :=
  exchanges.map exchanged

/-- The notices among acts, in order. -/
def notices (acts : List Act) : List Notice :=
  acts.filterMap notice?

@[simp] theorem exchanges_nil : exchanges [] = [] := rfl

@[simp] theorem exchanges_noted
    (notice : Notice)
    (acts : List Act) :
    exchanges (noted notice :: acts) = exchanges acts := rfl

@[simp] theorem exchanges_exchanged
    (exchange : Exchange)
    (acts : List Act) :
    exchanges (exchanged exchange :: acts) = exchange :: exchanges acts := rfl

@[simp] theorem exchanges_append (first second : List Act) :
    exchanges (first ++ second) = exchanges first ++ exchanges second := by
  simp [exchanges]

@[simp] theorem exchanges_ofExchanges (exchanges : List Exchange) :
    Act.exchanges (ofExchanges exchanges) = exchanges := by
  induction exchanges with
  | nil => rfl
  | cons exchange exchanges exchangesHypothesis =>
      simpa [ofExchanges] using exchangesHypothesis

@[simp] theorem notices_nil : notices [] = [] := rfl

@[simp] theorem notices_noted
    (notice : Notice)
    (acts : List Act) :
    notices (noted notice :: acts) = notice :: notices acts := rfl

@[simp] theorem notices_exchanged
    (exchange : Exchange)
    (acts : List Act) :
    notices (exchanged exchange :: acts) = notices acts := rfl

@[simp] theorem notices_ofExchanges (exchanges : List Exchange) :
    notices (ofExchanges exchanges) = [] := by
  induction exchanges with
  | nil => rfl
  | cons exchange exchanges exchangesHypothesis =>
      simpa [ofExchanges] using exchangesHypothesis

@[simp] theorem notices_append (first second : List Act) :
    notices (first ++ second) = notices first ++ notices second := by
  simp [notices]

end Act

namespace Operation

/-- How the reading of rows goes on after the answer to asking for the next row. -/
def afterRow
    (kept : List Value) (judge : List Value -> Value -> Verdict)
    (next : RowsEnd -> Operation α) : Except Failure (Option Value) -> Operation α
  | .error failure => next (.failed failure)
  | .ok none => next (.exhausted kept)
  | .ok (some row) =>
      match judge kept row with
      | .take => rows (kept ++ [row]) judge next
      | .takeLast => next (.sufficient (kept ++ [row]))
      | .refuse failure => next (.refused failure)

/--
An operation that finds the pool open, or not, can end in an outcome by the given acts and
leave the pool open, or not.
-/
inductive Ends : Bool -> Operation α -> List Act -> Except Failure α -> Bool -> Prop where
  | done (isOpen : Bool) (outcome : Except Failure α) :
      Ends isOpen (.done outcome) [] outcome isOpen
  | note (notice : Notice) {isOpen : Bool} {next : Operation α} {acts : List Act}
      {outcome : Except Failure α} {left : Bool} :
      Ends isOpen next acts outcome left ->
      Ends isOpen (.note notice next) (.noted notice :: acts) outcome left
  | ifOpen {isOpen : Bool} {whenOpen whenClosed : Operation α} {acts : List Act}
      {outcome : Except Failure α} {left : Bool} :
      Ends isOpen (if isOpen then whenOpen else whenClosed) acts outcome left ->
      Ends isOpen (.ifOpen whenOpen whenClosed) acts outcome left
  | setOpen (found : Bool) {isOpen : Bool} {next : Operation α} {acts : List Act}
      {outcome : Except Failure α} {left : Bool} :
      Ends isOpen next acts outcome left ->
      Ends found (.setOpen isOpen next) acts outcome left
  | call {isOpen : Bool} {request : Request}
      {next : Except Failure request.Reply -> Operation α}
      (answer : Except Failure request.Reply) {acts : List Act}
      {outcome : Except Failure α} {left : Bool} :
      Ends isOpen (next answer) acts outcome left ->
      Ends isOpen (.call request next) (.exchanged ⟨request, answer⟩ :: acts) outcome left
  | rows {isOpen : Bool} {kept : List Value} {judge : List Value -> Value -> Verdict}
      {next : RowsEnd -> Operation α} (answer : Except Failure (Option Value))
      {acts : List Act} {outcome : Except Failure α} {left : Bool} :
      Ends isOpen (afterRow kept judge next answer) acts outcome left ->
      Ends isOpen (.rows kept judge next) (.exchanged ⟨.nextRow, answer⟩ :: acts) outcome left

section Decomposition

variable {isOpen left : Bool} {acts : List Act} {outcome : Except Failure α}

@[simp] theorem ends_done_iff {ending : Except Failure α} :
    Ends isOpen (.done ending) acts outcome left ↔
      acts = [] ∧ outcome = ending ∧ left = isOpen := by
  constructor
  · intro ends
    cases ends
    exact ⟨rfl, rfl, rfl⟩
  · rintro ⟨rfl, rfl, rfl⟩
    exact .done _ _

@[simp] theorem ends_succeed_iff {answer : α} :
    Ends isOpen (succeed answer) acts outcome left ↔
      acts = [] ∧ outcome = .ok answer ∧ left = isOpen :=
  ends_done_iff

@[simp] theorem ends_fail_iff {failure : Failure} :
    Ends isOpen (fail failure) acts outcome left ↔
      acts = [] ∧ outcome = .error failure ∧ left = isOpen :=
  ends_done_iff

@[simp] theorem ends_note_iff {notice : Notice} {next : Operation α} :
    Ends isOpen (.note notice next) acts outcome left ↔
      ∃ rest, acts = .noted notice :: rest ∧ Ends isOpen next rest outcome left := by
  constructor
  · intro ends
    cases ends with
    | note _ rest => exact ⟨_, rfl, rest⟩
  · rintro ⟨rest, rfl, ends⟩
    exact .note notice ends

@[simp] theorem ends_report_iff {event : PoolEvent} {next : Operation α} :
    Ends isOpen (report event next) acts outcome left ↔
      ∃ rest, acts = .noted (.logged event.entry) :: rest ∧
        Ends isOpen next rest outcome left :=
  ends_note_iff

@[simp] theorem ends_ifOpen_iff {whenOpen whenClosed : Operation α} :
    Ends isOpen (.ifOpen whenOpen whenClosed) acts outcome left ↔
      Ends isOpen (if isOpen then whenOpen else whenClosed) acts outcome left := by
  constructor
  · intro ends
    cases ends with
    | ifOpen ends => exact ends
  · exact .ifOpen

@[simp] theorem ends_setOpen_iff {found : Bool} {next : Operation α} :
    Ends found (.setOpen isOpen next) acts outcome left ↔
      Ends isOpen next acts outcome left := by
  constructor
  · intro ends
    cases ends with
    | setOpen _ ends => exact ends
  · exact .setOpen found

@[simp] theorem ends_call_iff
    {request : Request}
    {next : Except Failure request.Reply -> Operation α} :
    Ends isOpen (.call request next) acts outcome left ↔
      ∃ answer rest, acts = .exchanged ⟨request, answer⟩ :: rest ∧
        Ends isOpen (next answer) rest outcome left := by
  constructor
  · intro ends
    cases ends with
    | call answer ends => exact ⟨answer, _, rfl, ends⟩
  · rintro ⟨answer, rest, rfl, ends⟩
    exact .call answer ends

end Decomposition

/-- Going on after an operation commutes with going on after the answer for a row. -/
theorem attempt_afterRow
    (kept : List Value)
    (judge : List Value -> Value -> Verdict)
    (rest : RowsEnd -> Operation α)
    (next : Except Failure α -> Operation β)
    (answer : Except Failure (Option Value)) :
    (afterRow kept judge rest answer).attempt next =
      afterRow kept judge (fun ending => (rest ending).attempt next) answer := by
  rcases answer with failure | (_ | row)
  · rfl
  · rfl
  · simp only [afterRow]
    cases judge kept row <;> rfl

theorem Ends.attempt
    {operation : Operation α}
    {next : Except Failure α -> Operation β}
    {isOpen between left : Bool}
    {first second : List Act}
    {middle : Except Failure α}
    {outcome : Except Failure β}
    (firstEnds : Ends isOpen operation first middle between)
    (secondEnds : Ends between (next middle) second outcome left) :
    Ends isOpen (operation.attempt next) (first ++ second) outcome left := by
  induction firstEnds with
  | done isOpen ending => exact secondEnds
  | note notice _ restHypothesis => exact .note notice (restHypothesis secondEnds)
  | @ifOpen isOpen whenOpen whenClosed _ _ _ _ branchHypothesis =>
      refine .ifOpen ?_
      cases isOpen with
      | true => exact branchHypothesis secondEnds
      | false => exact branchHypothesis secondEnds
  | setOpen found _ restHypothesis => exact .setOpen found (restHypothesis secondEnds)
  | call answer _ restHypothesis => exact .call answer (restHypothesis secondEnds)
  | rows answer _ restHypothesis =>
      refine .rows answer ?_
      rw [← attempt_afterRow]
      exact restHypothesis secondEnds

/-- The endings of an operation that goes on after another one, split where the first ends. -/
theorem ends_attempt_iff
    {operation : Operation α}
    {next : Except Failure α -> Operation β}
    {isOpen left : Bool}
    {acts : List Act}
    {outcome : Except Failure β} :
    Ends isOpen (operation.attempt next) acts outcome left ↔
      ∃ first second middle between, acts = first ++ second ∧
        Ends isOpen operation first middle between ∧
        Ends between (next middle) second outcome left := by
  constructor
  · intro ends
    generalize whole : operation.attempt next = combined at ends
    -- The induction is on the acts of the whole; the first operation shrinks with them
    -- until it is done, and everything that is left belongs to the second.
    induction ends generalizing operation with
    | done isOpen outcome =>
        cases operation <;> simp at whole
        exact ⟨[], [], _, isOpen, rfl, .done _ _, whole ▸ .done _ _⟩
    | @note notice isOpen rest acts outcome left restEnds restHypothesis =>
        cases operation with
        | done ending =>
            exact ⟨[], _, ending, isOpen, rfl, .done _ _, by
              rw [attempt_done] at whole
              exact whole ▸ .note notice restEnds⟩
        | note first rest =>
            cases whole
            obtain ⟨first, second, middle, between, rfl, firstEnds, secondEnds⟩ :=
              restHypothesis rfl
            exact ⟨_, second, middle, between, rfl, .note notice firstEnds, secondEnds⟩
        | _ => simp at whole
    | @ifOpen isOpen whenOpen whenClosed acts outcome left branchEnds branchHypothesis =>
        cases operation with
        | done ending =>
            exact ⟨[], _, ending, isOpen, rfl, .done _ _, by
              rw [attempt_done] at whole
              exact whole ▸ .ifOpen branchEnds⟩
        | ifOpen firstOpen firstClosed =>
            cases whole
            have branch : (if isOpen then firstOpen else firstClosed).attempt next =
                if isOpen then firstOpen.attempt next else firstClosed.attempt next := by
              cases isOpen <;> rfl
            obtain ⟨first, second, middle, between, rfl, firstEnds, secondEnds⟩ :=
              branchHypothesis branch
            exact ⟨first, second, middle, between, rfl, .ifOpen firstEnds, secondEnds⟩
        | _ => simp at whole
    | @setOpen found isOpen rest acts outcome left restEnds restHypothesis =>
        cases operation with
        | done ending =>
            exact ⟨[], _, ending, found, rfl, .done _ _, by
              rw [attempt_done] at whole
              exact whole ▸ .setOpen found restEnds⟩
        | setOpen first rest =>
            cases whole
            obtain ⟨first, second, middle, between, rfl, firstEnds, secondEnds⟩ :=
              restHypothesis rfl
            exact ⟨first, second, middle, between, rfl, .setOpen found firstEnds, secondEnds⟩
        | _ => simp at whole
    | @call isOpen request rest answer acts outcome left restEnds restHypothesis =>
        cases operation with
        | done ending =>
            exact ⟨[], _, ending, isOpen, rfl, .done _ _, by
              rw [attempt_done] at whole
              exact whole ▸ .call answer restEnds⟩
        | call request rest =>
            cases whole
            obtain ⟨first, second, middle, between, rfl, firstEnds, secondEnds⟩ :=
              restHypothesis rfl
            exact ⟨_, second, middle, between, rfl, .call answer firstEnds, secondEnds⟩
        | _ => simp at whole
    | @rows isOpen kept judge rest answer acts outcome left restEnds restHypothesis =>
        cases operation with
        | done ending =>
            exact ⟨[], _, ending, isOpen, rfl, .done _ _, by
              rw [attempt_done] at whole
              exact whole ▸ .rows answer restEnds⟩
        | rows kept judge rest =>
            cases whole
            obtain ⟨first, second, middle, between, rfl, firstEnds, secondEnds⟩ :=
              restHypothesis (attempt_afterRow _ _ _ _ _)
            exact ⟨_, second, middle, between, rfl, .rows answer firstEnds, secondEnds⟩
        | _ => simp at whole
  · rintro ⟨first, second, middle, between, rfl, firstEnds, secondEnds⟩
    exact firstEnds.attempt secondEnds

/-- The endings of an operation that goes on after one that may fail. -/
theorem ends_andThen_iff
    {operation : Operation α}
    {next : α -> Operation β}
    {isOpen left : Bool}
    {acts : List Act}
    {outcome : Except Failure β} :
    Ends isOpen (operation.andThen next) acts outcome left ↔
      (∃ failure, Ends isOpen operation acts (.error failure) left ∧
        outcome = .error failure) ∨
      ∃ first second answer between, acts = first ++ second ∧
        Ends isOpen operation first (.ok answer) between ∧
        Ends between (next answer) second outcome left := by
  unfold andThen
  rw [ends_attempt_iff]
  constructor
  · rintro ⟨first, second, failure | answer, between, rfl, firstEnds, secondEnds⟩
    · obtain ⟨rfl, rfl, rfl⟩ := ends_fail_iff.mp secondEnds
      exact .inl ⟨failure, by simpa using firstEnds, rfl⟩
    · exact .inr ⟨first, second, answer, between, rfl, firstEnds, secondEnds⟩
  · rintro (⟨failure, firstEnds, rfl⟩ |
      ⟨first, second, answer, between, rfl, firstEnds, secondEnds⟩)
    · exact ⟨acts, [], .error failure, left, by simp, firstEnds, .done _ _⟩
    · exact ⟨first, second, .ok answer, between, rfl, firstEnds, secondEnds⟩

end Operation
end InstanceDirectory
