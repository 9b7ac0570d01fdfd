import InstanceDirectory.Proofs.Conduct
import InstanceDirectory.Proofs.Decoding
import InstanceDirectory.Proofs.Scanning
import Mathlib.Data.List.Forall2

/-!
# Matching runs

Two drivers are alike when they differ only in what failures of the driver say and in what
unfit rows hold.  Operations match when, whatever alike drivers answer, they make the same
requests and end in outcomes that are related.  Matching is kept by every way of putting
operations together, and by every moment, so two runs of matching operations go side by side
to their ends.

Failures that are not of the driver pass through operations as they are.  Which of them may
come up is a parameter of matching, so that an operation that matches itself also says which
failures it can end in.
-/

namespace InstanceDirectory

open Operation

/-- Both computations answer and their answers are related, or both fail and their failures are. -/
inductive Related (answers : α -> β -> Prop) (failures : Failure -> Failure -> Prop) :
    Except Failure α -> Except Failure β -> Prop where
  | ok {first : α} {second : β} :
      answers first second -> Related answers failures (.ok first) (.ok second)
  | error {first second : Failure} :
      failures first second -> Related answers failures (.error first) (.error second)

/-- The same failure, or two failures of the driver, whatever they say. -/
def Failure.Alike (first second : Failure) : Prop :=
  first = second ∨ (first.isDriver ∧ second.isDriver)

namespace Row

/-- The row makes no instance for any host. -/
def IsUndecodable (row : Value) : Prop :=
  ∀ host inst, decode row host ≠ .ok inst

/-- The row does not decode or has no valid count. -/
def IsFaulty (row : Value) : Prop :=
  (fault? row).isSome

/-- The same row, or two lists of values that are both unfit. -/
def Alike (unfit : Value -> Prop) (first second : Value) : Prop :=
  first = second ∨ ∃ items others,
    first = .list items ∧ second = .list others ∧ unfit first ∧ unfit second

/-- What is wrong with a list of values is a matter of decoding. -/
theorem fault?_list
    {items : List Value}
    {failure : Failure}
    (faulty : fault? (.list items) = some failure) :
    failure.isDecode := by
  have failed := addTo_of_fault faulty {}
  exact addTo_list_failsByDecoding {} items failure failed

end Row

/-- The replies to a request are the same, but for rows that are unfit. -/
def Request.Alike : (request : Request) -> request.Reply -> request.Reply -> Prop
  | .fetchRow _ _, first, second => Row.Alike Row.IsUndecodable first second
  | .nextRow, first, second => Option.Rel (Row.Alike Row.IsFaulty) first second
  | .perform, first, second => first = second
  | .acquire, first, second => first = second
  | .createPool _, _, _ => True
  | .closePool, _, _ => True
  | .release _, _, _ => True
  | .beginTransaction _, _, _ => True
  | .rollback _, _, _ => True
  | .openRows _, _, _ => True
  | .closeRows, _, _ => True

/-- Two drivers answer alike whatever is requested. -/
def Answerer.Alike (first second : Answerer) : Prop :=
  ∀ request, Related request.Alike Failure.Alike (first request) (second request)

/-- The same happens at two moments, but for the answers of alike drivers. -/
inductive Moment.Alike : Moment -> Moment -> Prop where
  | answered {first second : Answerer} :
      first.Alike second -> Alike (.answered first) (.answered second)
  | fired : Alike .fired .fired

section Passing

variable (passes : Failure -> Prop)

/-- If the row does not decode, this is a matter of decoding or may pass. -/
def Row.IsPermitted (row : Value) : Prop :=
  ∀ host failure, decode row host = .error failure -> failure.isDecode ∨ passes failure

/-- If a row of a reply is unfit, this is a matter of decoding or may pass. -/
def Request.Permits : (request : Request) -> request.Reply -> Prop
  | .fetchRow _ _, row => Row.IsPermitted passes row
  | .nextRow, reply => ∀ row failure, reply = some row -> Row.fault? row = some failure ->
      failure.isDecode ∨ passes failure
  | _, _ => True

/-- All that goes wrong in an exchange is of the driver, a matter of decoding, or may pass. -/
def Exchange.IsPermitted (exchange : Exchange) : Prop :=
  match exchange.answer with
  | .error failure => failure.isDriver ∨ passes failure
  | .ok reply => exchange.request.Permits passes reply

/-- Two readings of a page end alike. -/
inductive RowsEnd.Matches : RowsEnd -> RowsEnd -> Prop where
  | exhausted {rows : List Value} :
      (∀ row ∈ rows, Row.fault? row = none) -> Matches (.exhausted rows) (.exhausted rows)
  | refused {first second : Failure} :
      (first.isDecode ∧ second.isDecode) ∨ (first = second ∧ passes first) ->
      Matches (.refused first) (.refused second)
  | failed {first second : Failure} :
      first.Alike second -> first.isDriver ∨ passes first ->
      Matches (.failed first) (.failed second)

/--
Two operations make the same requests as long as their drivers answer alike, and end in
related outcomes.  They may note different things.  Rows are read only to be judged for a page.
-/
inductive Operation.Matches (ends : Except Failure α -> Except Failure α -> Prop) :
    Operation α -> Operation α -> Prop where
  | done {first second : Except Failure α} :
      ends first second -> Matches ends (.done first) (.done second)
  | note (notice other : Notice) {first second : Operation α} :
      Matches ends first second -> Matches ends (.note notice first) (.note other second)
  | ifOpen {firstOpen firstClosed secondOpen secondClosed : Operation α} :
      Matches ends firstOpen secondOpen -> Matches ends firstClosed secondClosed ->
      Matches ends (.ifOpen firstOpen firstClosed) (.ifOpen secondOpen secondClosed)
  | setOpen (isOpen : Bool) {first second : Operation α} :
      Matches ends first second ->
      Matches ends (.setOpen isOpen first) (.setOpen isOpen second)
  | call {request : Request} {first second : Except Failure request.Reply -> Operation α} :
      (∀ answer other, Related request.Alike Failure.Alike answer other ->
        (Exchange.mk request answer).IsPermitted passes ->
        Matches ends (first answer) (second other)) ->
      Matches ends (.call request first) (.call request second)
  | rows {kept : List Value} {first second : RowsEnd -> Operation α} :
      (∀ row ∈ kept, Row.fault? row = none) ->
      (∀ ending other, RowsEnd.Matches passes ending other ->
        Matches ends (first ending) (second other)) ->
      Matches ends (.rows kept Scan.judge first) (.rows kept Scan.judge second)

/-- Two operations under a context are at the same point. -/
structure Supervision.Matches
    (ends : Except Failure α -> Except Failure α -> Prop) (first second : Supervision α) :
    Prop where
  operation : first.operation.Matches passes ends second.operation
  sameOpen : first.site.isOpen = second.site.isOpen
  sameFired : first.fired = second.fired

end Passing

variable {passes : Failure -> Prop}

namespace Operation.Matches

variable {ends : Except Failure α -> Except Failure α -> Prop}
  {later : Except Failure β -> Except Failure β -> Prop}
  {first second : Operation α}

/-- What goes on alike after outcomes that are related goes on alike after the operations. -/
theorem attempt
    {next other : Except Failure α -> Operation β}
    (matching : first.Matches passes ends second)
    (rest : ∀ outcome ending, ends outcome ending ->
      (next outcome).Matches passes later (other ending)) :
    (first.attempt next).Matches passes later (second.attempt other) := by
  -- What is put after both operations moves down to their ends.
  induction matching with
  | done related => exact rest _ _ related
  | note notice other _ nextHypothesis => exact .note notice other nextHypothesis
  | ifOpen _ _ openHypothesis closedHypothesis => exact .ifOpen openHypothesis closedHypothesis
  | setOpen isOpen _ nextHypothesis => exact .setOpen isOpen nextHypothesis
  | call _ nextHypothesis => exact .call nextHypothesis
  | rows sound _ nextHypothesis => exact .rows sound nextHypothesis

/-- The same for operations that go on only after an answer. -/
theorem andThen
    {answers : α -> α -> Prop}
    {failures : Failure -> Failure -> Prop}
    {results : β -> β -> Prop}
    {next other : α -> Operation β}
    (matching : first.Matches passes (Related answers failures) second)
    (rest : ∀ answer reply, answers answer reply ->
      (next answer).Matches passes (Related results failures) (other reply)) :
    (first.andThen next).Matches passes (Related results failures) (second.andThen other) := by
  apply matching.attempt
  intro outcome ending related
  cases related with
  | ok related => exact rest _ _ related
  | error related => exact .done (.error related)

/-- Settling leaves operations matching. -/
theorem settle
    (matching : first.Matches passes ends second)
    {site other : Site}
    (sameOpen : site.isOpen = other.isOpen) :
    (first.settle site).1.Matches passes ends (second.settle other).1 ∧
      (first.settle site).2.isOpen = (second.settle other).2.isOpen := by
  induction matching generalizing site other with
  | done related => exact ⟨.done related, sameOpen⟩
  | note notice different _ nextHypothesis =>
      exact @nextHypothesis (site.note notice) (other.note different) sameOpen
  | ifOpen _ _ openHypothesis closedHypothesis =>
      cases found : site.isOpen with
      | true =>
          simp only [Operation.settle, ← sameOpen, found, if_true]
          exact openHypothesis sameOpen
      | false =>
          simp only [Operation.settle, ← sameOpen, found, Bool.false_eq_true, if_false]
          exact closedHypothesis sameOpen
  | setOpen isOpen _ nextHypothesis =>
      exact @nextHypothesis { site with isOpen } { other with isOpen } rfl
  | @call request first second next _ =>
      refine ⟨.call next, ?_⟩
      cases traced : isTraced request with
      | true =>
          simp only [Operation.settle, traced, if_true]
          exact sameOpen
      | false =>
          simp only [Operation.settle, traced, Bool.false_eq_true, if_false]
          exact sameOpen
  | rows sound next _ => exact ⟨.rows sound next, sameOpen⟩

/-- A row is judged alike in both readings, and so they go on alike. -/
theorem answer_row
    {kept : List Value}
    {row other : Value}
    {next elsewhere : RowsEnd -> Operation α}
    (sound : ∀ row ∈ kept, Row.fault? row = none)
    (goesOn : ∀ ending other, RowsEnd.Matches passes ending other ->
      (next ending).Matches passes ends (elsewhere other))
    (alike : Row.Alike Row.IsFaulty row other)
    (permitted : ∀ failure, Row.fault? row = some failure ->
      failure.isDecode ∨ passes failure) :
    (afterRow kept Scan.judge next (.ok (some row))).Matches passes ends
      (afterRow kept Scan.judge elsewhere (.ok (some other))) := by
  simp only [afterRow, Scan.judge_eq]
  rcases alike with rfl | ⟨items, others, rfl, rfl, faulty, faultyToo⟩
  · cases fault : Row.fault? row with
    | none =>
        refine .rows ?_ goesOn
        intro taken isTaken
        rcases List.mem_append.mp isTaken with before | now
        · exact sound taken before
        · exact List.mem_singleton.mp now ▸ fault
    | some failure =>
        apply goesOn
        apply RowsEnd.Matches.refused
        rcases permitted failure fault with isDecode | isPassing
        · exact .inl ⟨isDecode, isDecode⟩
        · exact .inr ⟨rfl, isPassing⟩
  · obtain ⟨failure, fault⟩ := Option.isSome_iff_exists.mp faulty
    obtain ⟨failureToo, faultToo⟩ := Option.isSome_iff_exists.mp faultyToo
    rw [fault, faultToo]
    apply goesOn
    exact .refused (.inl ⟨Row.fault?_list fault, Row.fault?_list faultToo⟩)

/-- Alike answers leave operations matching. -/
theorem answer
    (matching : first.Matches passes ends second)
    {answerer different : Answerer}
    (alike : answerer.Alike different)
    (permitted : ∀ request, first.request? = some request ->
      (Exchange.mk request (answerer request)).IsPermitted passes)
    {site other : Site}
    (sameOpen : site.isOpen = other.isOpen) :
    (first.answer answerer site).1.Matches passes ends (second.answer different other).1 ∧
      (first.answer answerer site).2.isOpen = (second.answer different other).2.isOpen := by
  cases matching with
  | done related => exact ⟨.done related, sameOpen⟩
  | note notice different next => exact (Matches.note notice different next).settle sameOpen
  | ifOpen whenOpen whenClosed => exact (Matches.ifOpen whenOpen whenClosed).settle sameOpen
  | setOpen isOpen next => exact (Matches.setOpen isOpen next).settle sameOpen
  | @call request _ _ next =>
      exact (next _ _ (alike request) (permitted request rfl)).settle sameOpen
  | @rows kept next elsewhere sound goesOn =>
      obtain ⟨traced, sameTraced, -, answered⟩ :=
        answer_rows kept Scan.judge next answerer site
      obtain ⟨tracedToo, sameTracedToo, -, answeredToo⟩ :=
        answer_rows kept Scan.judge elsewhere different other
      rw [answered, answeredToo]
      refine Matches.settle ?_ (sameTraced.trans (sameOpen.trans sameTracedToo.symm))
      have rowAlike := alike .nextRow
      have rowPermitted := permitted .nextRow rfl
      generalize answerer .nextRow = answer at rowAlike rowPermitted ⊢
      generalize different .nextRow = other at rowAlike ⊢
      cases rowAlike with
      | error failuresAlike => exact goesOn _ _ (.failed failuresAlike rowPermitted)
      | ok repliesAlike =>
          cases repliesAlike with
          | none => exact goesOn _ _ (.exhausted sound)
          | some rowsAlike =>
              exact answer_row sound goesOn rowsAlike fun failure => rowPermitted _ failure rfl

/-- Matching operations have both ended or none of them has. -/
theorem outcome?_cases (matching : first.Matches passes ends second) :
    (first.outcome? = none ∧ second.outcome? = none) ∨
    ∃ outcome ending, first.outcome? = some outcome ∧ second.outcome? = some ending ∧
      ends outcome ending := by
  cases matching with
  | done related => exact .inr ⟨_, _, rfl, rfl, related⟩
  | _ => exact .inl ⟨rfl, rfl⟩

/-- Matching operations wait for the answer to the same request. -/
theorem request?_eq (matching : first.Matches passes ends second) :
    first.request? = second.request? := by
  cases matching <;> rfl

end Operation.Matches

namespace Supervision.Matches

variable {ends : Except Failure α -> Except Failure α -> Prop} {first second : Supervision α}

theorem start
    {operation other : Operation α}
    (matching : operation.Matches passes ends other)
    (site : Site) :
    (Supervision.start operation site).Matches passes ends (Supervision.start other site) := by
  obtain ⟨settled, sameOpen⟩ := matching.settle (Eq.refl site.isOpen)
  exact ⟨settled, sameOpen, rfl⟩

theorem interruption_alike : Answerer.Alike Answerer.interruption Answerer.interruption :=
  fun _ => .error (.inl rfl)

/-- A moment leaves operations under a context matching. -/
theorem step
    {moment other : Moment}
    (matching : first.Matches passes ends second)
    (alike : moment.Alike other)
    (permitted : ∀ exchange, first.exchange? moment = some exchange ->
      exchange.IsPermitted passes) :
    (first.step moment).Matches passes ends (second.step other) := by
  cases alike with
  | answered answersAlike =>
      obtain ⟨answered, sameOpen⟩ := by
        refine matching.operation.answer answersAlike ?_ matching.sameOpen
        intro request waits
        exact permitted _ (by simp only [exchange?, waits, Option.map_some])
      exact ⟨answered, sameOpen, matching.sameFired⟩
  | fired =>
      -- Both operations are interrupted, or neither is: they fire and end together.
      cases fired : first.fired with
      | true =>
          have firedToo : second.fired = true := matching.sameFired ▸ fired
          simpa [Supervision.step, fire, fired, firedToo] using matching
      | false =>
          have firedToo : second.fired = false := matching.sameFired ▸ fired
          rcases matching.operation.outcome?_cases with
            ⟨unended, unendedToo⟩ | ⟨outcome, ending, ended, endedToo, -⟩
          · have traced := (noteInterruption_traced first.operation first.site).1
            have tracedToo := (noteInterruption_traced second.operation second.site).1
            obtain ⟨answered, sameOpen⟩ := by
              refine matching.operation.answer interruption_alike ?_
                (traced.trans (matching.sameOpen.trans tracedToo.symm))
              intro request waits
              exact permitted ⟨request, .error .interrupted⟩ (by
                simp only [exchange?, fired, waits, Option.map_some, Bool.false_eq_true, if_false])
            simp only [Supervision.step, fire, fired, firedToo, unended, unendedToo,
              Option.isSome_none, Bool.or_self, Bool.false_eq_true, if_false]
            exact ⟨answered, sameOpen, rfl⟩
          · simpa [Supervision.step, fire, ended, endedToo] using matching

/-- A moment brings about exchanges of the same request. -/
theorem exchange?_request
    {moment other : Moment}
    (matching : first.Matches passes ends second)
    (alike : moment.Alike other) :
    (first.exchange? moment).map Exchange.request =
      (second.exchange? other).map Exchange.request := by
  have same := matching.operation.request?_eq
  cases alike with
  | answered _ =>
      simp only [exchange?, same, Option.map_map]
      rfl
  | fired => simp only [exchange?, same, matching.sameFired]

/--
Moments that are alike leave operations under a context matching, and bring about exchanges
of the same requests in the same order.
-/
theorem after
    {moments others : List Moment}
    (matching : first.Matches passes ends second)
    (alike : List.Forall₂ Moment.Alike moments others)
    (permitted : ∀ exchange ∈ first.exchanges moments, exchange.IsPermitted passes) :
    (first.after moments).Matches passes ends (second.after others) ∧
      (first.exchanges moments).map Exchange.request =
        (second.exchanges others).map Exchange.request := by
  -- On the moments, which come in pairs; each pair keeps the operations matching.
  induction alike generalizing first second with
  | nil => exact ⟨matching, rfl⟩
  | @cons moment other moments others momentsAlike _ restHypothesis =>
      rw [exchanges_cons] at permitted
      have stepped : (first.step moment).Matches passes ends (second.step other) := by
        refine matching.step momentsAlike ?_
        intro exchange happens
        exact permitted exchange (List.mem_append_left _ (Option.mem_toList.mpr happens))
      obtain ⟨ended, sameRequests⟩ := restHypothesis stepped fun exchange happens =>
        permitted exchange (List.mem_append_right _ happens)
      have now := congrArg Option.toList (exchange?_request matching momentsAlike)
      rw [Option.toList_map, Option.toList_map] at now
      refine ⟨ended, ?_⟩
      rw [exchanges_cons, exchanges_cons, List.map_append, List.map_append, now, sameRequests]

end Supervision.Matches
end InstanceDirectory
