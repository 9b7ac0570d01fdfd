import InstanceDirectory.Proofs.Course

/-!
# Endings within a number of answers

An operation without a loop ends after a bounded number of answers, whatever the answers
are and whenever the context fires: being interrupted takes the place of an answer.  One that
reads rows does so as long as no more rows than a given number are there.
-/

namespace InstanceDirectory
namespace Operation

/-- The operation has ended or waits for an answer. -/
def IsSettled : Operation α -> Prop
  | done _ => True
  | call _ _ => True
  | rows _ _ _ => True
  | _ => False

theorem isSettled_settle (operation : Operation α) (site : Site) :
    (operation.settle site).1.IsSettled := by
  induction operation generalizing site with
  | note notice next nextHypothesis => exact nextHypothesis _
  | ifOpen whenOpen whenClosed openHypothesis closedHypothesis =>
      cases found : site.isOpen with
      | true => simpa [settle, found] using openHypothesis site
      | false => simpa [settle, found] using closedHypothesis site
  | setOpen isOpen next nextHypothesis => exact nextHypothesis _
  | _ => trivial

/--
The operation ends after at most that many answers, whatever they are.  Rows are read only
when a number of rows is given, and then no more than these are there.
-/
inductive EndsWithin (most : Option Nat) : Operation α -> Nat -> Prop where
  | done (outcome : Except Failure α) (bound : Nat) : EndsWithin most (.done outcome) bound
  | note (notice : Notice) {next : Operation α} {bound : Nat} :
      EndsWithin most next bound -> EndsWithin most (.note notice next) bound
  | ifOpen {whenOpen whenClosed : Operation α} {bound : Nat} :
      EndsWithin most whenOpen bound -> EndsWithin most whenClosed bound ->
      EndsWithin most (.ifOpen whenOpen whenClosed) bound
  | setOpen (isOpen : Bool) {next : Operation α} {bound : Nat} :
      EndsWithin most next bound -> EndsWithin most (.setOpen isOpen next) bound
  | call {request : Request} {next : Except Failure request.Reply -> Operation α} {bound : Nat} :
      (∀ answer, EndsWithin most (next answer) bound) ->
      EndsWithin most (.call request next) (bound + 1)
  | rows {number : Nat} (limited : most = some number)
      (kept : List Value) (judge : List Value -> Value -> Verdict)
      {next : RowsEnd -> Operation α} {bound : Nat} :
      (∀ ending, EndsWithin most (next ending) bound) ->
      EndsWithin most (.rows kept judge next) (bound + (number - kept.length) + 1)

/-- Once as many rows as given were read, the answerer has no further one. -/
def HasAllRows (most : Option Nat) (answerer : Answerer) : Operation α -> Prop
  | rows kept _ _ => ∀ number, most = some number -> number ≤ kept.length ->
      ∀ row, answerer .nextRow ≠ .ok (some row)
  | _ => True

namespace EndsWithin

variable {most : Option Nat}

theorem mono
    {operation : Operation α}
    {bound larger : Nat}
    (within : EndsWithin most operation bound)
    (atMost : bound ≤ larger) :
    EndsWithin most operation larger := by
  induction within generalizing larger with
  | done outcome bound => exact .done outcome larger
  | note notice _ nextHypothesis => exact .note notice (nextHypothesis atMost)
  | ifOpen _ _ openHypothesis closedHypothesis =>
      exact .ifOpen (openHypothesis atMost) (closedHypothesis atMost)
  | setOpen isOpen _ nextHypothesis => exact .setOpen isOpen (nextHypothesis atMost)
  | call _ nextHypothesis =>
      obtain ⟨larger, rfl⟩ := Nat.exists_eq_add_one_of_ne_zero (Nat.ne_of_gt
        (Nat.lt_of_lt_of_le (Nat.succ_pos _) atMost))
      exact .call fun answer => nextHypothesis answer (Nat.le_of_succ_le_succ atMost)
  | @rows number limited kept judge next bound _ nextHypothesis =>
      obtain ⟨more, rfl⟩ := Nat.exists_eq_add_of_le atMost
      have regrouped : bound + (number - kept.length) + 1 + more =
          (bound + more) + (number - kept.length) + 1 := by omega
      rw [regrouped]
      exact .rows limited kept judge fun ending => nextHypothesis ending (Nat.le_add_right _ _)

/-- An operation that goes on after another one needs at most the answers of both. -/
theorem attempt
    {operation : Operation α}
    {next : Except Failure α -> Operation β}
    {bound later : Nat}
    (within : EndsWithin most operation bound)
    (nextWithin : ∀ outcome, EndsWithin most (next outcome) later) :
    EndsWithin most (operation.attempt next) (bound + later) := by
  induction within with
  | done outcome bound => exact (nextWithin outcome).mono (Nat.le_add_left _ _)
  | note notice _ nextHypothesis => exact .note notice nextHypothesis
  | ifOpen _ _ openHypothesis closedHypothesis => exact .ifOpen openHypothesis closedHypothesis
  | setOpen isOpen _ nextHypothesis => exact .setOpen isOpen nextHypothesis
  | call _ nextHypothesis =>
      rw [Nat.add_right_comm]
      exact .call nextHypothesis
  | @rows number limited kept judge next bound _ nextHypothesis =>
      have regrouped : bound + (number - kept.length) + 1 + later =
          (bound + later) + (number - kept.length) + 1 := by omega
      rw [regrouped]
      exact .rows limited kept judge nextHypothesis

/-- An operation that goes on after a success needs at most the answers of both. -/
theorem andThen
    {operation : Operation α}
    {next : α -> Operation β}
    {bound later : Nat}
    (within : EndsWithin most operation bound)
    (nextWithin : ∀ answer, EndsWithin most (next answer) later) :
    EndsWithin most (operation.andThen next) (bound + later) := by
  refine within.attempt fun outcome => ?_
  cases outcome with
  | ok answer => exact nextWithin answer
  | error failure => exact .done _ _

theorem settle
    {operation : Operation α}
    {bound : Nat}
    (within : EndsWithin most operation bound)
    (site : Site) :
    EndsWithin most (operation.settle site).1 bound := by
  induction within generalizing site with
  | done outcome bound => exact .done outcome bound
  | note notice _ nextHypothesis => exact nextHypothesis _
  | ifOpen _ _ openHypothesis closedHypothesis =>
      cases found : site.isOpen with
      | true => simpa [Operation.settle, found] using openHypothesis site
      | false => simpa [Operation.settle, found] using closedHypothesis site
  | setOpen isOpen _ nextHypothesis => exact nextHypothesis _
  | call within _ => exact .call within
  | rows limited kept judge within _ => exact .rows limited kept judge within

/-- An operation that waits for an answer needs one. -/
theorem bound_pos
    {operation : Operation α}
    {bound : Nat}
    (within : EndsWithin most operation bound)
    (settled : operation.IsSettled)
    (unended : operation.outcome? = none) :
    0 < bound := by
  cases within with
  | done outcome bound => cases unended
  | call _ => exact Nat.succ_pos _
  | rows _ _ _ _ => exact Nat.succ_pos _
  | _ => exact settled.elim

/-- An answer to a settled operation leaves one answer less to be given. -/
theorem answer
    {operation : Operation α}
    {bound : Nat}
    (within : EndsWithin most operation bound)
    (settled : operation.IsSettled)
    {answerer : Answerer}
    (hasAll : operation.HasAllRows most answerer)
    (site : Site) :
    EndsWithin most (operation.answer answerer site).1 (bound - 1) := by
  cases within with
  | done outcome bound => exact .done outcome _
  | call within => exact (within _).settle site
  | @rows number limited kept judge next bound within =>
      have goesOn : ∀ ending (traced : Site),
          EndsWithin most ((next ending).settle traced).1 (bound + (number - kept.length)) :=
        fun ending traced => ((within ending).settle traced).mono (Nat.le_add_right _ _)
      rw [Nat.add_sub_cancel]
      unfold Operation.answer
      match answered : answerer .nextRow with
      | .error failure => exact goesOn _ _
      | .ok none => exact goesOn _ _
      | .ok (some row) =>
          have unread : kept.length < number :=
            Nat.lt_of_not_le fun allRead => hasAll number limited allRead row answered
          simp only
          cases judge kept row with
          | take =>
              have oneLess : bound + (number - kept.length) =
                  bound + (number - (kept ++ [row]).length) + 1 := by
                rw [List.length_append, List.length_singleton]
                omega
              rw [oneLess]
              exact .rows limited _ judge within
          | takeLast => exact goesOn _ _
          | refuse failure => exact goesOn _ _
  | _ => exact settled.elim

end EndsWithin

@[simp] theorem hasAllRows_none (operation : Operation α) (answerer : Answerer) :
    operation.HasAllRows none answerer := by
  cases operation <;> simp [HasAllRows]

@[simp] theorem hasAllRows_interruption (most : Option Nat) (operation : Operation α) :
    operation.HasAllRows most Answerer.interruption := by
  cases operation <;> simp [HasAllRows, Answerer.interruption]

/-- An answer leaves an operation settled. -/
theorem isSettled_answer (operation : Operation α) (answerer : Answerer) (site : Site) :
    (operation.answer answerer site).1.IsSettled := by
  cases operation with
  | call request next => exact isSettled_settle _ _
  | rows kept judge next =>
      obtain ⟨traced, _, _, answered⟩ := answer_rows kept judge next answerer site
      rw [answered]
      exact isSettled_settle _ _
  | _ => exact isSettled_settle _ _

/-- A settled operation that has not ended waits for the answer to a request. -/
theorem exists_request
    {operation : Operation α}
    (settled : operation.IsSettled)
    (unended : operation.outcome? = none) :
    ∃ request, operation.request? = some request := by
  cases operation with
  | call request next => exact ⟨request, rfl⟩
  | rows kept judge next => exact ⟨.nextRow, rfl⟩
  | done outcome => cases unended
  | _ => exact absurd settled id

end Operation

/-- The number of moments at which something is answered. -/
def Moment.answers (moments : List Moment) : Nat :=
  moments.countP fun
    | .answered _ => true
    | .fired => false

@[simp] theorem Moment.answers_answered (answerer : Answerer) (moments : List Moment) :
    answers (.answered answerer :: moments) = answers moments + 1 := by
  simp [answers]

@[simp] theorem Moment.answers_fired (moments : List Moment) :
    answers (.fired :: moments) = answers moments := by
  simp [answers]

namespace Supervision

/-- Moments leave an operation settled. -/
theorem isSettled_step
    {supervision : Supervision α}
    (settled : supervision.operation.IsSettled)
    (moment : Moment) :
    (supervision.step moment).operation.IsSettled := by
  cases moment with
  | answered answerer => exact supervision.operation.isSettled_answer answerer supervision.site
  | fired =>
      simp only [step, fire]
      split
      · exact settled
      · exact supervision.operation.isSettled_answer _ _

theorem isSettled_after
    {supervision : Supervision α}
    (settled : supervision.operation.IsSettled)
    (moments : List Moment) :
    (supervision.after moments).operation.IsSettled := by
  induction moments generalizing supervision with
  | nil => exact settled
  | cons moment moments momentsHypothesis => exact momentsHypothesis (isSettled_step settled moment)

/-- When the context fires, an operation needs no more answers than before. -/
theorem endsWithin_fired
    {supervision : Supervision α}
    {most : Option Nat}
    {bound : Nat}
    (within : supervision.operation.EndsWithin most bound)
    (settled : supervision.operation.IsSettled) :
    (supervision.step .fired).operation.EndsWithin most bound ∧
      (supervision.step .fired).operation.IsSettled := by
  cases stays : supervision.fired || supervision.operation.outcome?.isSome with
  | true =>
      simp only [step, fire, stays, if_true]
      exact ⟨within, settled⟩
  | false =>
      have stepped : (supervision.step .fired).operation =
          (supervision.operation.answer Answerer.interruption
            (noteInterruption supervision.operation supervision.site)).1 := by
        simp [step, fire, stays, interrupt, Supervision.answer]
      rw [stepped]
      have lessLeft := within.answer settled (Operation.hasAllRows_interruption _ _)
        (noteInterruption supervision.operation supervision.site)
      exact ⟨lessLeft.mono (Nat.sub_le _ _), supervision.operation.isSettled_answer _ _⟩

/-- Moments that answer often enough bring an operation to its end. -/
theorem ends_of_answers
    {supervision : Supervision α}
    {bound : Nat}
    {moments : List Moment}
    (within : supervision.operation.EndsWithin none bound)
    (settled : supervision.operation.IsSettled)
    (enough : bound ≤ Moment.answers moments) :
    ∃ outcome, (supervision.after moments).operation.outcome? = some outcome := by
  induction moments generalizing supervision bound with
  | nil =>
      obtain rfl : bound = 0 := Nat.le_zero.mp enough
      rw [after_nil]
      cases ended : supervision.operation with
      | done outcome => exact ⟨outcome, rfl⟩
      | call request next =>
          rw [ended] at within
          cases within
      | rows kept judge next =>
          rw [ended] at within
          cases within
      | _ => simp [ended, Operation.IsSettled] at settled
  | cons moment moments momentsHypothesis =>
      rw [after_cons]
      cases moment with
      | answered answerer =>
          refine momentsHypothesis
            (within.answer settled (Operation.hasAllRows_none _ _) supervision.site)
            (supervision.operation.isSettled_answer answerer supervision.site) ?_
          rw [Moment.answers_answered] at enough
          exact Nat.sub_le_of_le_add enough
      | fired =>
          obtain ⟨laterWithin, laterSettled⟩ := endsWithin_fired within settled
          rw [Moment.answers_fired] at enough
          exact momentsHypothesis laterWithin laterSettled enough

end Supervision
end InstanceDirectory
